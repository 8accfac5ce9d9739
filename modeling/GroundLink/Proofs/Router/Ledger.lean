import GroundLink.Proofs.Router.Trace
import Mathlib.Data.List.Basic
import Mathlib.Data.List.Induction

/-! # Where every frame goes

A frame that is delivered fulfils a request, is shown to the observer, or is kept back; what is
kept back leaves again to serve a handle, to make room, for a new request of its number, at
teardown, or for its age. The ledger of a run notes for every delivery that has come to its end
how it ended, and together with what is still kept back it lists all deliveries once.
-/

namespace GroundLink

namespace RouterStep

def isDelivery : RouterStep → Bool
  | .deliver _ _ => true
  | _ => false

/-- The time at which a step looks at the responses kept back. -/
def clock? : RouterStep → Option Nat
  | .expect _ _ now _ | .deliver now _ | .countHeld now => some now
  | _ => none

end RouterStep

/-- Why a response kept back is given up. -/
inductive Discard where
  /-- It is the oldest of as many as may be kept back when another one comes. -/
  | displaced
  /-- A new request asks for its number. -/
  | stale
  /-- The router is torn down. -/
  | cleared
  /-- It has been kept back too long. -/
  | expired
  deriving Repr, DecidableEq

/-- How a delivered frame ends. -/
inductive Ending where
  /-- It fulfils the request of this ticket at once. -/
  | fulfils (ticket : Nat)
  | unsolicited
  /-- After it was kept back it serves the handle of this ticket. -/
  | serves (ticket : Nat)
  | discarded (reason : Discard)
  deriving Repr, DecidableEq

namespace Trace

/-- What has been kept back too long at a time. -/
def aged (trace : Trace) (now : Nat) : List (Nat × Ending) :=
  (trace.held.filter fun entry => !entry.2.isFresh now).map fun entry =>
    (entry.1, .discarded .expired)

/-- The oldest response kept back, if one has to make room. -/
def crowded (trace : Trace) (now : Nat) : List (Nat × Ending) :=
  if (trace.fresh now).length ≥ maxHeld then
    (trace.fresh now).head?.toList.map fun entry => (entry.1, .discarded .displaced)
  else []

/-- The deliveries that come to their end at a step. -/
def endings (trace : Trace) : RouterStep → List (Nat × Ending)
  | .beginIssue id _ _ =>
      match trace.table.ensureOpen id with
      | .error _ => []
      | .ok () =>
          (trace.held.filter fun entry => entry.2.response.id == id).map fun entry =>
            (entry.1, .discarded .stale)
  | .expect id filter now _ =>
      if trace.table.shutDown || trace.table.isPending id then []
      else
        trace.aged now ++
          (((trace.fresh now).find? fun entry => entry.2.answers id filter).map fun entry =>
            (entry.1, .serves trace.table.slots.length)).toList
  | .deliver now frame =>
      match (trace.table.deliver now frame).1 with
      | .fulfils ticket => [(trace.length, .fulfils ticket)]
      | .unsolicited => [(trace.length, .unsolicited)]
      | .held => trace.aged now ++ trace.crowded now
  | .cancelAll => trace.held.map fun entry => (entry.1, .discarded .cleared)
  | .countHeld now => trace.aged now
  | _ => []

/-- The deliveries that come to their end during some steps. -/
def ledgerFrom (trace : Trace) : List RouterStep → List (Nat × Ending)
  | [] => []
  | step :: rest => trace.endings step ++ (trace.apply step).ledgerFrom rest

/-- All deliveries of a run that have come to their end, in this order. -/
def ledger (steps : List RouterStep) : List (Nat × Ending) := ledgerFrom {} steps

variable {trace : Trace} {step : RouterStep}

theorem ledgerFrom_concat (trace : Trace) (steps : List RouterStep) (step : RouterStep) :
    trace.ledgerFrom (steps ++ [step]) =
      trace.ledgerFrom steps ++ (steps.foldl Trace.apply trace).endings step := by
  induction steps generalizing trace with
  | nil => simp [ledgerFrom]
  | cons first rest ih => simp only [List.cons_append, ledgerFrom, ih, List.foldl_cons,
      List.append_assoc]

theorem ledger_concat (steps : List RouterStep) (step : RouterStep) :
    ledger (steps ++ [step]) = ledger steps ++ (ofSteps steps).endings step :=
  ledgerFrom_concat _ _ _

/-! ## What an ending means -/

/-- How a response kept back leaves at a step. -/
inductive Leaves (trace : Trace) (step : RouterStep) (entry : Nat × HeldResponse) : Ending → Prop
  /-- It is the oldest one that answers, and the new handle is fulfilled by it. -/
  | serves (id : CorrelationId) (filter : FrameFilter) (now timeout : Nat) (request : Pending)
      (first rest : List (Nat × HeldResponse)) (hstep : step = .expect id filter now timeout)
      (hmade : trace.table.made? step = some request)
      (hfresh : trace.fresh now = first ++ entry :: rest)
      (hfirst : ∀ other ∈ first, other.2.answers id filter = false)
      (hanswers : entry.2.answers id filter = true)
      (hfilled : (trace.table.apply step).outcome? request.handle.ticket =
        some (.fulfilled entry.2.response)) :
      Leaves trace step entry (.serves request.handle.ticket)
  /-- It is the oldest of as many as may be kept back, and another response comes. -/
  | displaced (now : Nat) (response : Response) (rest : List (Nat × HeldResponse))
      (hstep : step = .deliver now (.response response))
      (hfate : (trace.table.deliver now (.response response)).1 = .held)
      (hfresh : trace.fresh now = entry :: rest) (hfull : maxHeld ≤ (trace.fresh now).length) :
      Leaves trace step entry (.discarded .displaced)
  | stale (filter : FrameFilter) (deadline : Nat)
      (hstep : step = .beginIssue entry.2.response.id filter deadline)
      (hopen : trace.table.ensureOpen entry.2.response.id = .ok ()) :
      Leaves trace step entry (.discarded .stale)
  | cleared (hstep : step = .cancelAll) : Leaves trace step entry (.discarded .cleared)
  | expired (now : Nat) (hclock : step.clock? = some now)
      (hage : heldLifetime ≤ now - entry.2.received) :
      Leaves trace step entry (.discarded .expired)

/-- How a delivery ends at a step: at once, or after it was kept back. -/
inductive Ends (trace : Trace) (step : RouterStep) : Nat → Ending → Prop
  | fulfils (now : Nat) (frame : Frame) (ticket : Nat) (hstep : step = .deliver now frame)
      (hfate : (trace.table.deliver now frame).1 = .fulfils ticket) :
      Ends trace step trace.length (.fulfils ticket)
  | unsolicited (now : Nat) (frame : Frame) (hstep : step = .deliver now frame)
      (hfate : (trace.table.deliver now frame).1 = .unsolicited) :
      Ends trace step trace.length .unsolicited
  | leaves (entry : Nat × HeldResponse) (ending : Ending) (hmem : entry ∈ trace.held)
      (hleaves : trace.Leaves step entry ending) : Ends trace step entry.1 ending

theorem ends_of_mem_aged {now number : Nat} {ending : Ending}
    (hmem : (number, ending) ∈ trace.aged now) (hclock : step.clock? = some now) :
    trace.Ends step number ending := by
  obtain ⟨entry, hentry, heq⟩ := List.mem_map.mp hmem
  cases heq
  obtain ⟨hheld, hage⟩ := List.mem_filter.mp hentry
  refine .leaves entry _ hheld (.expired now hclock ?_)
  simpa [HeldResponse.isFresh] using hage

/-- A new handle that a kept response answers is fulfilled by it. -/
theorem Faithful.leaves_expect (h : trace.Faithful) {id : CorrelationId} {filter : FrameFilter}
    {now timeout : Nat} (hfree : (trace.table.shutDown || trace.table.isPending id) = false)
    {entry : Nat × HeldResponse}
    (hfind : (trace.fresh now).find? (fun entry => entry.2.answers id filter) = some entry) :
    trace.Leaves (.expect id filter now timeout) entry (.serves trace.table.slots.length) := by
  obtain ⟨hshutDown, hpending⟩ := Bool.or_eq_false_iff.mp hfree
  obtain ⟨hanswers, first, rest, hsplit, hfirst⟩ := List.find?_eq_some_iff_append.mp hfind
  have hexpect := RequestTable.expect_of_free filter now timeout hshutDown hpending
  rw [h.find?_prune, hfind] at hexpect
  have hmade : trace.table.made? (.expect id filter now timeout) =
      some ⟨⟨id, trace.table.slots.length, now + timeout⟩, filter⟩ := by
    simp only [RequestTable.made?, hexpect, Option.map_some]
  refine .serves id filter now timeout _ first rest rfl hmade hsplit (by simpa using hfirst)
    hanswers ?_
  apply RequestTable.outcome?_eq_of_getElem?
  simp only [RequestTable.apply, hexpect, Option.map_some, List.getElem?_concat_length]

/-- Every ending in the ledger is what it says. -/
theorem Faithful.ends_of_mem (h : trace.Faithful) {number : Nat} {ending : Ending}
    (hmem : (number, ending) ∈ trace.endings step) : trace.Ends step number ending := by
  cases step with
  | beginIssue id filter deadline =>
      simp only [endings] at hmem
      split at hmem
      next => exact absurd hmem List.not_mem_nil
      next hopen =>
        obtain ⟨entry, hentry, heq⟩ := List.mem_map.mp hmem
        cases heq
        obtain ⟨hheld, hid⟩ := List.mem_filter.mp hentry
        obtain rfl : entry.2.response.id = id := by simpa using hid
        exact .leaves entry _ hheld (.stale filter deadline rfl hopen)
  | expect id filter now timeout =>
      simp only [endings] at hmem
      split at hmem
      next => exact absurd hmem List.not_mem_nil
      next hfree =>
        rcases List.mem_append.mp hmem with hmem | hmem
        · exact ends_of_mem_aged hmem rfl
        · obtain ⟨entry, hfind, heq⟩ := Option.map_eq_some_iff.mp (Option.mem_toList.mp hmem)
          cases heq
          refine .leaves entry _ ?_ (h.leaves_expect (by simpa using hfree) hfind)
          exact List.mem_of_mem_filter (List.mem_of_find?_eq_some hfind)
  | deliver now frame =>
      simp only [endings] at hmem
      split at hmem
      next ticket hfate =>
        cases List.mem_singleton.mp hmem
        exact .fulfils now frame ticket rfl hfate
      next hfate =>
        cases List.mem_singleton.mp hmem
        exact .unsolicited now frame rfl hfate
      next hfate =>
        rcases List.mem_append.mp hmem with hmem | hmem
        · exact ends_of_mem_aged hmem rfl
        · unfold crowded at hmem
          split at hmem
          next hfull =>
            obtain ⟨entry, hentry, heq⟩ := List.mem_map.mp hmem
            cases heq
            obtain ⟨rest, hfresh⟩ := List.head?_eq_some_iff.mp (Option.mem_toList.mp hentry)
            have hheld : entry ∈ trace.fresh now := hfresh ▸ List.mem_cons_self
            -- only a response is kept back
            rcases trace.table.deliver_cases now frame with
              ⟨_, _, rfl, _, _, hdeliver⟩ | ⟨response, _, rfl, _, _, hdeliver⟩ | ⟨hdeliver, _⟩
            · rw [hdeliver] at hfate
              exact nomatch hfate
            · exact .leaves entry _ (List.mem_of_mem_filter hheld)
                (.displaced now response rest rfl hfate hfresh hfull)
            · rw [hdeliver] at hfate
              exact nomatch hfate
          next => exact absurd hmem List.not_mem_nil
  | cancelAll =>
      obtain ⟨entry, hentry, heq⟩ := List.mem_map.mp hmem
      cases heq
      exact .leaves entry _ hentry (.cleared rfl)
  | countHeld now => exact ends_of_mem_aged hmem rfl
  | _ => exact absurd hmem List.not_mem_nil

/-! ## Nothing is lost and nothing is doubled -/

/-- What is too old and what is not make up what is kept back. -/
theorem perm_aged (trace : Trace) (now : Nat) :
    ((trace.aged now).map Prod.fst ++ (trace.fresh now).map Prod.fst).Perm
      (trace.held.map Prod.fst) := by
  have hsplit := List.filter_append_perm (fun entry => !entry.2.isFresh now) trace.held
  simp only [Bool.not_not] at hsplit
  simpa [aged, fresh, List.map_map, Function.comp_def] using hsplit.map Prod.fst

/-- The number of a delivery is new at its step. -/
def arrivals (trace : Trace) (step : RouterStep) : List Nat :=
  if step.isDelivery then [trace.length] else []

theorem perm_endings_beginIssue (id : CorrelationId) (filter : FrameFilter) (deadline : Nat) :
    ((trace.endings (.beginIssue id filter deadline)).map Prod.fst ++
      (trace.heldAfter (.beginIssue id filter deadline)).map Prod.fst).Perm
        (trace.held.map Prod.fst) := by
  simp only [endings, heldAfter]
  cases trace.table.ensureOpen id with
  | error error => simp
  | ok _ =>
      have hsplit := List.filter_append_perm
        (fun entry : Nat × HeldResponse => entry.2.response.id == id) trace.held
      simpa [List.map_map, Function.comp_def, bne] using hsplit.map Prod.fst

theorem perm_endings_expect (id : CorrelationId) (filter : FrameFilter) (now timeout : Nat) :
    ((trace.endings (.expect id filter now timeout)).map Prod.fst ++
      (trace.heldAfter (.expect id filter now timeout)).map Prod.fst).Perm
        (trace.held.map Prod.fst) := by
  simp only [endings, heldAfter]
  split
  · simp
  · refine List.Perm.trans ?_ (trace.perm_aged now)
    rw [List.map_append, List.append_assoc]
    refine List.Perm.append_left _ ?_
    cases hfind : (trace.fresh now).find? fun entry => entry.2.answers id filter with
    | none =>
        have hnone := List.find?_eq_none.mp hfind
        rw [List.eraseP_of_forall_not hnone]
        simp
    | some entry =>
        obtain ⟨hanswers, first, rest, hsplit, hfirst⟩ := List.find?_eq_some_iff_append.mp hfind
        rw [hsplit, List.eraseP_append_right _ (by simpa using hfirst),
          List.eraseP_cons_of_pos (p := fun entry : Nat × HeldResponse =>
            entry.2.answers id filter) hanswers]
        simpa using (@List.perm_middle _ entry.1 (first.map Prod.fst) (rest.map Prod.fst)).symm

/-- Making room takes the oldest one and leaves the others. -/
theorem map_crowded (trace : Trace) (now : Nat) :
    (trace.crowded now).map Prod.fst ++ (if (trace.fresh now).length ≥ maxHeld then
      (trace.fresh now).tail else trace.fresh now).map Prod.fst =
        (trace.fresh now).map Prod.fst := by
  unfold crowded
  split
  · cases trace.fresh now <;> rfl
  · rfl

theorem perm_endings_deliver (now : Nat) (frame : Frame) :
    ((trace.endings (.deliver now frame)).map Prod.fst ++
      (trace.heldAfter (.deliver now frame)).map Prod.fst).Perm
        (trace.held.map Prod.fst ++ [trace.length]) := by
  simp only [endings, heldAfter]
  rcases trace.table.deliver_cases now frame with
    ⟨_, _, rfl, _, _, hdeliver⟩ | ⟨response, _, rfl, _, _, hdeliver⟩ | ⟨hdeliver, _⟩
  · simpa [hdeliver] using (List.perm_append_singleton _ _).symm
  · simp only [hdeliver]
    rw [List.map_append, List.map_append, List.append_assoc,
      ← List.append_assoc _ _ (List.map _ [_]), trace.map_crowded now, ← List.append_assoc]
    exact (trace.perm_aged now).append_right _
  · simpa [hdeliver] using (List.perm_append_singleton _ _).symm

/-- At every step the deliveries that end and those kept back afterwards are those kept back
before and the new one. -/
theorem perm_endings (trace : Trace) (step : RouterStep) :
    ((trace.endings step).map Prod.fst ++ (trace.apply step).held.map Prod.fst).Perm
      (trace.held.map Prod.fst ++ trace.arrivals step) := by
  cases step with
  | deliver now frame => exact perm_endings_deliver now frame
  | beginIssue id filter deadline =>
      rw [show trace.arrivals (.beginIssue id filter deadline) = [] from rfl, List.append_nil]
      exact perm_endings_beginIssue id filter deadline
  | expect id filter now timeout =>
      rw [show trace.arrivals (.expect id filter now timeout) = [] from rfl, List.append_nil]
      exact perm_endings_expect id filter now timeout
  | countHeld now =>
      rw [show trace.arrivals (.countHeld now) = [] from rfl, List.append_nil]
      exact trace.perm_aged now
  | _ => simp [endings, apply, heldAfter, arrivals, RouterStep.isDelivery, Function.comp_def]

end Trace

end GroundLink
