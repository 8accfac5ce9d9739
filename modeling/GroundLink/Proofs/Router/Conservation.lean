import GroundLink.Proofs.Router.Ledger
import GroundLink.Proofs.Router.Operations
import GroundLink.Proofs.Router.Provenance

/-! # Frames are conserved

Every frame that is delivered has one of three fates, and whatever is kept back leaves in one of
the ways that the ledger knows. So the ledger and the responses kept back list every delivery of a
run exactly once; the responses kept back are never too many, and they stand in the order in which
they came.
-/

namespace GroundLink

namespace RequestTable

variable {table : RequestTable}

/-- What a delivery does, one constructor for each fate. -/
inductive Delivers (table : RequestTable) (now : Nat) : Frame → Fate → RequestTable → Prop
  /-- One request gets the response and waits no more; nothing else changes. -/
  | fulfils (response : Response) (request : Pending) (next : RequestTable)
      (hmem : request ∈ table.pending) (hid : request.handle.id = response.id)
      (haccepts : request.filter.accepts response.kind = true)
      (hpending : ∀ other, other ∈ next.pending ↔ other ∈ table.pending ∧ other ≠ request)
      (hslot : next.outcome? request.handle.ticket = some (.fulfilled response))
      (hothers : ∀ ticket, ticket ≠ request.handle.ticket →
        next.outcome? ticket = table.outcome? ticket)
      (hheld : next.held = table.held) :
      Delivers table now (.response response) (.fulfils request.handle.ticket) next
  /-- The response is kept back as the last one. -/
  | holds (response : Response) (request : Pending) (next : RequestTable)
      (kept : List HeldResponse) (hmem : request ∈ table.pending)
      (hid : request.handle.id = response.id)
      (hrejects : request.filter.accepts response.kind = false)
      (hpending : next.pending = table.pending) (hslots : next.slots = table.slots)
      (hkept : kept.Sublist table.held) (hheld : next.held = kept ++ [⟨now, response⟩]) :
      Delivers table now (.response response) .held next
  | unsolicited (frame : Frame)
      (hnobody : ∀ response, frame = .response response →
        ∀ request ∈ table.pending, request.handle.id ≠ response.id) :
      Delivers table now frame .unsolicited table

theorem outcome?_complete (table : RequestTable) (ticket : Nat) (outcome : Outcome) (other : Nat) :
    (table.complete ticket outcome).outcome? other =
      if other = ticket ∧ table.slots[ticket]? = some none then some outcome
      else table.outcome? other := by
  rw [outcome?, complete_slots]
  split <;> rfl

theorem Sound.delivers (h : table.Sound) (now : Nat) (frame : Frame) :
    table.Delivers now frame (table.deliver now frame).1 (table.deliver now frame).2 := by
  rcases table.deliver_cases now frame with
    ⟨response, request, rfl, hfind, haccepts, hdeliver⟩ |
    ⟨response, request, rfl, hfind, hrejects, hdeliver⟩ | ⟨hdeliver, hnone⟩
  · obtain ⟨hmem, hid⟩ := find?_mem hfind
    rw [hdeliver]
    refine .fulfils response request _ hmem hid haccepts ?_ ?_ ?_ (complete_held _ _ _)
    · intro other
      rw [complete_pending, remove, List.mem_filter, bne_iff_ne]
      refine and_congr_right fun hother => not_congr ⟨h.eq_of_ticket hother hmem, ?_⟩
      rintro rfl
      rfl
    · rw [outcome?_complete, if_pos ⟨rfl, h.waiting request hmem⟩]
    · intro ticket hticket
      rw [outcome?_complete, if_neg fun hboth => hticket hboth.1]
      rfl
  · obtain ⟨hmem, hid⟩ := find?_mem hfind
    rw [hdeliver]
    refine .holds response request _ (if (table.prune now).held.length ≥ maxHeld then
      (table.prune now).held.tail else (table.prune now).held) hmem hid hrejects rfl rfl ?_ rfl
    split
    · exact (List.tail_sublist _).trans List.filter_sublist
    · exact List.filter_sublist
  · rw [hdeliver]
    exact .unsolicited frame fun response heq => find?_eq_none_iff.mp (hnone response heq)

/-- A frame is unsolicited exactly when it is no response or nobody waits with its number. -/
theorem Sound.unsolicited_iff (h : table.Sound) (now : Nat) (frame : Frame) :
    (table.deliver now frame).1 = .unsolicited ↔
      ∀ response, frame = .response response →
        ∀ request ∈ table.pending, request.handle.id ≠ response.id := by
  have hdelivers := h.delivers now frame
  generalize (table.deliver now frame).2 = next at hdelivers
  generalize (table.deliver now frame).1 = fate at hdelivers ⊢
  cases hdelivers with
  | fulfils response request next hmem hid haccepts hpending hslot hothers hheld =>
      exact iff_of_false nofun fun hnobody => hnobody response rfl request hmem hid
  | holds response request next kept hmem hid hrejects hpending hslots hkept hheld =>
      exact iff_of_false nofun fun hnobody => hnobody response rfl request hmem hid
  | unsolicited frame hnobody => exact iff_of_true rfl hnobody

end RequestTable

/-- The observer sees a frame once if it is unsolicited, and not at all otherwise. -/
theorem Router.observed_deliver (router : Router) (frame : Frame) :
    (router.deliver frame).observed =
      router.observed ++ if (router.table.deliver router.now frame).1 = .unsolicited then
        router.observers.head?.toList.map fun observer => (observer, frame) else [] := by
  unfold Router.deliver
  split
  next table hdeliver =>
    rw [hdeliver, if_pos rfl, Router.report_eq]
  next fate table hfate hdeliver =>
    rw [hdeliver, if_neg (by simpa using hfate), List.append_nil]

/-! ## The responses kept back -/

namespace Trace

variable {trace : Trace} {step : RouterStep} {next : Trace}

/-- Never are more responses kept back than there may be. -/
theorem length_heldAfter (hlength : trace.held.length ≤ maxHeld) (step : RouterStep) :
    (trace.heldAfter step).length ≤ maxHeld := by
  have hfresh : ∀ now, (trace.fresh now).length ≤ maxHeld := fun now =>
    Nat.le_trans (List.length_filter_le _ _) hlength
  cases step with
  | beginIssue id filter deadline =>
      simp only [heldAfter]
      split
      · exact hlength
      · exact Nat.le_trans (List.length_filter_le _ _) hlength
  | expect id filter now timeout =>
      simp only [heldAfter]
      split
      · exact hlength
      · exact Nat.le_trans List.length_eraseP_le (hfresh now)
  | deliver now frame =>
      simp only [heldAfter]
      split
      · rw [List.length_append, List.length_singleton]
        have hbound := hfresh now
        split
        next hfull =>
          have hpositive : 0 < maxHeld := by decide
          rw [List.length_tail]
          omega
        next => omega
      · exact hlength
  | cancelAll => exact Nat.zero_le _
  | countHeld now => exact hfresh now
  | _ => exact hlength

/-- The responses kept back stand in the order of their deliveries. -/
theorem Numbered.sorted_change (h : trace.Numbered) (hchange : trace.Change step next)
    (hsorted : (trace.held.map Prod.fst).Pairwise (· < ·)) :
    (next.held.map Prod.fst).Pairwise (· < ·) := by
  cases hchange with
  | passes hheld hslots hsource hpurged => exact hsorted.sublist (hheld.map _)
  | serves entry first rest request hmade hstep hfresh hheld hanswers hslots hsource =>
      have hsub : (first ++ rest).Sublist trace.held :=
        (List.Sublist.append_left (List.sublist_cons_self entry rest) first).trans hfresh
      rw [hheld]
      exact hsorted.sublist (hsub.map _)
  | fulfils request now response hstep hmem hheld hsource =>
      rw [hheld]
      exact hsorted
  | keeps now response kept hstep hkept hheld hsource =>
      rw [hheld, List.map_append, List.pairwise_append]
      refine ⟨hsorted.sublist (hkept.map _), List.pairwise_singleton _ _, ?_⟩
      intro number hnumber other hother
      obtain ⟨entry, hentry, rfl⟩ := List.mem_map.mp hnumber
      rw [List.mem_singleton.mp hother]
      exact h.held_lt entry (hkept.subset hentry)

/-- What is kept back and leaves at a step has its ending there. -/
theorem Numbered.exists_ending (h : trace.Numbered) (hfaithful : trace.Faithful)
    {entry : Nat × HeldResponse} (hmem : entry ∈ trace.held)
    (hgone : entry ∉ (trace.apply step).held) :
    ∃ ending, (entry.1, ending) ∈ trace.endings step ∧ trace.Leaves step entry ending := by
  have hsame : ∀ other ∈ trace.held, other.1 = entry.1 → other = entry := fun other hother heq =>
    List.inj_on_of_nodup_map h.nodup hother hmem heq
  have hnumber : entry.1 ∈ trace.held.map Prod.fst ++ trace.arrivals step :=
    List.mem_append_left _ (List.mem_map_of_mem hmem)
  rcases List.mem_append.mp ((trace.perm_endings step).mem_iff.mpr hnumber) with hends | hstays
  · obtain ⟨⟨number, ending⟩, hending, hnumber⟩ := List.mem_map.mp hends
    dsimp only at hnumber
    have hlt := h.held_lt entry hmem
    cases hfaithful.ends_of_mem hending with
    | fulfils now frame ticket hstep hfate => omega
    | unsolicited now frame hstep hfate => omega
    | leaves other _ hother hleaves =>
        rw [hsame other hother hnumber] at hending hleaves
        exact ⟨ending, hending, hleaves⟩
  · obtain ⟨other, hother, heq⟩ := List.mem_map.mp hstays
    rcases (hfaithful.change step).mem_held hother with ⟨hearlier, -⟩ | ⟨hnew, -⟩
    · exact absurd (hsame other hearlier heq ▸ hother) hgone
    · have hlt := h.held_lt entry hmem
      omega

theorem Numbered.sorted_ofSteps (steps : List RouterStep) :
    ((ofSteps steps).held.map Prod.fst).Pairwise (· < ·) := by
  induction steps using List.reverseRecOn with
  | nil => exact List.Pairwise.nil
  | append_singleton rest step ih =>
      have hrecords := records_ofSteps rest
      rw [ofSteps_concat]
      exact hrecords.numbered.sorted_change (hrecords.faithful.change step) ih

theorem length_held_ofSteps (steps : List RouterStep) :
    (ofSteps steps).held.length ≤ maxHeld := by
  induction steps using List.reverseRecOn with
  | nil => exact Nat.zero_le _
  | append_singleton rest step ih =>
      rw [ofSteps_concat]
      exact length_heldAfter ih step

end Trace

/-! ## The ledger of a run -/

/-- The numbers of the steps that deliver. -/
def deliveries (steps : List RouterStep) : List Nat :=
  (List.range steps.length).filter fun place => steps[place]?.any RouterStep.isDelivery

theorem deliveries_concat (steps : List RouterStep) (step : RouterStep) :
    deliveries (steps ++ [step]) =
      deliveries steps ++ if step.isDelivery then [steps.length] else [] := by
  rw [deliveries, List.length_append, List.length_singleton, List.range_succ, List.filter_append]
  congr 1
  · apply List.filter_congr
    intro place hplace
    rw [List.getElem?_append_left (List.mem_range.mp hplace)]
  · simp [List.filter_singleton]

theorem length_deliveries (steps : List RouterStep) :
    (deliveries steps).length = steps.countP RouterStep.isDelivery := by
  induction steps using List.reverseRecOn with
  | nil => rfl
  | append_singleton rest step ih =>
      rw [deliveries_concat, List.length_append, ih, List.countP_append, List.countP_singleton]
      split <;> rfl

/-- What has ended and what is kept back are the deliveries of the run. -/
theorem perm_ledger (steps : List RouterStep) :
    ((Trace.ledger steps).map Prod.fst ++ (Trace.ofSteps steps).held.map Prod.fst).Perm
      (deliveries steps) := by
  induction steps using List.reverseRecOn with
  | nil => exact List.Perm.refl _
  | append_singleton rest step ih =>
      have hlength := (records_ofSteps rest).length
      have hstep := (Trace.ofSteps rest).perm_endings step
      rw [Trace.arrivals, hlength] at hstep
      rw [Trace.ledger_concat, Trace.ofSteps_concat, List.map_append, List.append_assoc,
        deliveries_concat]
      refine (hstep.append_left _).trans ?_
      rw [← List.append_assoc]
      exact ih.append_right _

theorem ends_of_mem_ledger {steps : List RouterStep} {number : Nat} {ending : Ending}
    (hmem : (number, ending) ∈ Trace.ledger steps) :
    ∃ before step after, steps = before ++ step :: after ∧
      (Trace.ofSteps before).Ends step number ending := by
  induction steps using List.reverseRecOn with
  | nil => exact absurd hmem List.not_mem_nil
  | append_singleton rest last ih =>
      rw [Trace.ledger_concat] at hmem
      rcases List.mem_append.mp hmem with hmem | hmem
      · obtain ⟨before, step, after, rfl, hends⟩ := ih hmem
        exact ⟨before, step, after ++ [last], by simp, hends⟩
      · exact ⟨rest, last, [], rfl, (records_ofSteps rest).faithful.ends_of_mem hmem⟩

/-- Where a delivered frame ends. -/
inductive Destination where
  | fulfilled
  | unsolicited
  /-- Handed to a handle after it was kept back. -/
  | served
  /-- Given up for room, for a new request or for teardown. -/
  | discarded
  | expired
  deriving Repr, DecidableEq

def Ending.destination : Ending → Destination
  | .fulfils _ => .fulfilled
  | .unsolicited => .unsolicited
  | .serves _ => .served
  | .discarded .expired => .expired
  | .discarded _ => .discarded

/-- How many deliveries of a run have ended at a destination. -/
def total (steps : List RouterStep) (destination : Destination) : Nat :=
  (Trace.ledger steps).countP fun entry => entry.2.destination == destination

/-- Every ending has one destination. -/
theorem length_eq_destinations (entries : List (Nat × Ending)) :
    entries.length =
      (entries.countP fun entry => entry.2.destination == .fulfilled) +
      (entries.countP fun entry => entry.2.destination == .unsolicited) +
      (entries.countP fun entry => entry.2.destination == .served) +
      (entries.countP fun entry => entry.2.destination == .discarded) +
      entries.countP fun entry => entry.2.destination == .expired := by
  induction entries with
  | nil => rfl
  | cons entry rest ih =>
      simp only [List.length_cons, List.countP_cons, ih]
      cases entry.2.destination <;> simp <;> omega

/-- After any steps in any order. Every delivery has one of three fates: it fulfils one request,
its response is kept back as the last one, or the frame is unsolicited, the latter exactly when it
is no response or nobody waits with its number; and the observer sees it once then and otherwise
not at all. Never are more responses kept back than there may be, they stand in the order of their
deliveries, and one leaves only to serve the handle whose filter it is the oldest to satisfy, as the
oldest when there is no room, for a request of its number on an open router, at teardown, or for
its age. The deliveries that the ledger lists and those kept back are all deliveries, each once; so
their number is the sum over all destinations and what is kept back. -/
theorem frames_are_conserved (steps : List RouterStep) :
    let trace := Trace.ofSteps steps
    let table := ({} : RequestTable).run steps
    (trace.table = table ∧ trace.held.map Prod.snd = table.held ∧
      ∀ entry ∈ trace.held,
        steps[entry.1]? = some (.deliver entry.2.received (.response entry.2.response))) ∧
    (∀ now frame,
      table.Delivers now frame (table.deliver now frame).1 (table.deliver now frame).2 ∧
      ((table.deliver now frame).1 = .unsolicited ↔ ∀ response, frame = .response response →
        ∀ request ∈ table.pending, request.handle.id ≠ response.id)) ∧
    (∀ router : Router, router.table = table → ∀ frame, (router.deliver frame).observed =
      router.observed ++ if (table.deliver router.now frame).1 = .unsolicited then
        router.observers.head?.toList.map fun observer => (observer, frame) else []) ∧
    table.held.length ≤ maxHeld ∧ (trace.held.map Prod.fst).Pairwise (· < ·) ∧
    (∀ step, ∀ entry ∈ trace.held, entry ∉ (trace.apply step).held →
      ∃ ending, (entry.1, ending) ∈ trace.endings step ∧ trace.Leaves step entry ending) ∧
    (∀ number ending, (number, ending) ∈ Trace.ledger steps →
      ∃ before step after, steps = before ++ step :: after ∧
        (Trace.ofSteps before).Ends step number ending) ∧
    ((Trace.ledger steps).map Prod.fst ++ trace.held.map Prod.fst).Perm (deliveries steps) ∧
    steps.countP RouterStep.isDelivery =
      total steps .fulfilled + total steps .unsolicited + total steps .served +
        total steps .discarded + total steps .expired + table.held.length := by
  have hrecords := records_ofSteps steps
  have hsound := RequestTable.sound_run steps
  have hheld : (Trace.ofSteps steps).held.map Prod.snd = (({} : RequestTable).run steps).held := by
    rw [hrecords.faithful.held, hrecords.table]
  have hlength :
      (({} : RequestTable).run steps).held.length = (Trace.ofSteps steps).held.length := by
    rw [← hheld, List.length_map]
  refine ⟨⟨hrecords.table, hheld, hrecords.origin⟩, ?_, ?_, ?_, Trace.Numbered.sorted_ofSteps steps,
    ?_, fun number ending => ends_of_mem_ledger, perm_ledger steps, ?_⟩
  · exact fun now frame => ⟨hsound.delivers now frame, hsound.unsolicited_iff now frame⟩
  · intro router htable frame
    rw [router.observed_deliver, htable]
  · rw [hlength]
    exact Trace.length_held_ofSteps steps
  · exact fun step entry hmem => hrecords.numbered.exists_ending hrecords.faithful hmem
  · have hcount := (perm_ledger steps).length_eq
    rw [length_deliveries, List.length_append, List.length_map, List.length_map,
      length_eq_destinations] at hcount
    rw [← hcount, hlength]
    rfl

/-- Two failures are kept back from a request for success, which then succeeds; the older one serves
a handle, the other one is given up for a new request, and a beacon is unsolicited. -/
theorem frames_are_conserved_mixed :
    let failure (code : UInt8) : Frame := .response ⟨⟨.terminal, .error code⟩, 7, []⟩
    let before : List RouterStep := [.beginIssue 7 (.success .terminal) 1000,
      .deliver 1 (failure 1), .deliver 2 (failure 2),
      .deliver 3 (.response ⟨⟨.terminal, .success⟩, 7, []⟩), .deliver 4 (.beacon [])]
    let serve : RouterStep := .expect 7 (.error .terminal) 5 10
    let oldest : Nat × HeldResponse := (1, ⟨1, ⟨⟨.terminal, .error 1⟩, 7, []⟩⟩)
    let steps := before ++ [serve, .beginIssue 7 .any 1000]
    oldest ∈ (Trace.ofSteps before).held ∧
      oldest ∉ ((Trace.ofSteps before).apply serve).held ∧
      (∃ ending, (1, ending) ∈ (Trace.ofSteps before).endings serve ∧
        (Trace.ofSteps before).Leaves serve oldest ending) ∧
      Trace.ledger steps = [(3, .fulfils 0), (4, .unsolicited), (1, .serves 1),
        (2, .discarded .stale)] ∧
      steps.countP RouterStep.isDelivery =
        total steps .fulfilled + total steps .unsolicited + total steps .served +
          total steps .discarded + total steps .expired +
          (({} : RequestTable).run steps).held.length := by
  have hbefore := frames_are_conserved [.beginIssue 7 (.success .terminal) 1000,
    .deliver 1 (.response ⟨⟨.terminal, .error 1⟩, 7, []⟩),
    .deliver 2 (.response ⟨⟨.terminal, .error 2⟩, 7, []⟩),
    .deliver 3 (.response ⟨⟨.terminal, .success⟩, 7, []⟩), .deliver 4 (.beacon [])]
  have hsteps := frames_are_conserved [.beginIssue 7 (.success .terminal) 1000,
    .deliver 1 (.response ⟨⟨.terminal, .error 1⟩, 7, []⟩),
    .deliver 2 (.response ⟨⟨.terminal, .error 2⟩, 7, []⟩),
    .deliver 3 (.response ⟨⟨.terminal, .success⟩, 7, []⟩), .deliver 4 (.beacon []),
    .expect 7 (.error .terminal) 5 10, .beginIssue 7 .any 1000]
  refine ⟨by decide, by decide, ?_, by decide, hsteps.2.2.2.2.2.2.2.2⟩
  exact hbefore.2.2.2.2.2.1 (.expect 7 (.error .terminal) 5 10)
    (1, ⟨1, ⟨⟨.terminal, .error 1⟩, 7, []⟩⟩) (by decide) (by decide)

end GroundLink
