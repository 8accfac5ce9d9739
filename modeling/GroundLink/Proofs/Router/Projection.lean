import GroundLink.Proofs.Router.Ledger

/-! # One number among many

All numbers share one list of requests and one count of tickets. The requests of one number can
nevertheless be told from the rest: they and their slots stand in another table by themselves, with
tickets that are counted there. This remains so whatever ends requests on both sides alike, and
whatever gives out a handle, for this number on both sides or for another one on the first.
-/

namespace GroundLink

/-! ## Steps about one number -/

/-- The number that a step is about. Teardown and the end of the link are about none in
particular. -/
def RouterStep.about? : RouterStep → Option CorrelationId
  | .beginIssue id _ _ | .expect id _ _ _ | .expire id _ => some id
  | .abandonIssue handle _ | .cancel handle => some handle.id
  | .deliver _ (.response response) => some response.id
  | _ => none

/-- Whether a step is about no other number. -/
def RouterStep.reaches (id : CorrelationId) (step : RouterStep) : Bool :=
  step.about?.all fun other => other == id

theorem RouterStep.eq_of_reaches {step : RouterStep} {id other : CorrelationId}
    (hreaches : step.reaches id = true) (habout : step.about? = some other) : other = id := by
  rw [reaches, habout] at hreaches
  simpa using hreaches

/-- What a step answers. -/
inductive Reply where
  | nothing
  | id (id : CorrelationId)
  | handle (result : Except RouterError Handle)
  | fate (fate : Fate)
  | count (count : Nat)
  deriving Repr, DecidableEq

def RequestTable.reply (table : RequestTable) : RouterStep → Reply
  | .allocate => .id table.allocateId.1
  | .beginIssue id filter deadline => .handle (table.beginIssue id filter deadline).1
  -- whatever has become of the request, its caller is told that the send has failed
  | .abandonIssue _ reason => .handle (.error (.transportUnavailable reason))
  | .expect id filter now timeout => .handle (table.expect id filter now timeout).1
  | .deliver now frame => .fate (table.deliver now frame).1
  | .countHeld now => .count (table.prune now).held.length
  | _ => .nothing

section Renumber

variable (number : Nat → Nat)

def Handle.renumber (handle : Handle) : Handle := { handle with ticket := number handle.ticket }

def Pending.renumber (request : Pending) : Pending :=
  { request with handle := request.handle.renumber number }

def RouterStep.renumber : RouterStep → RouterStep
  | .abandonIssue handle reason => .abandonIssue (handle.renumber number) reason
  | .expire id ticket => .expire id (number ticket)
  | .cancel handle => .cancel (handle.renumber number)
  | step => step

def Fate.renumber : Fate → Fate
  | .fulfils ticket => .fulfils (number ticket)
  | fate => fate

def Reply.renumber : Reply → Reply
  | .handle result => .handle (result.map (Handle.renumber number))
  | .fate decided => .fate (decided.renumber number)
  | reply => reply

theorem RouterStep.about?_renumber (step : RouterStep) :
    (step.renumber number).about? = step.about? := by
  cases step <;> rfl

theorem Fate.renumber_eq_held_iff {fate : Fate} : fate.renumber number = .held ↔ fate = .held := by
  cases fate <;> simp [renumber]

end Renumber

namespace RouterStep

variable {number : Nat → Nat} {step : RouterStep} {request : Pending}

/-- A step with the new tickets ends a request with its new ticket as it would with the old one. -/
theorem ends?_renumber
    (hown : ∀ ticket, number request.handle.ticket = number ticket →
      request.handle.ticket = ticket) :
    (step.renumber number).ends? (request.renumber number) = step.ends? request := by
  have hticket : ∀ id ticket,
      (request.handle.id = id ∧ number request.handle.ticket = number ticket) =
        (request.handle.id = id ∧ request.handle.ticket = ticket) := fun id ticket =>
    propext (and_congr_right fun _ => ⟨hown ticket, congrArg number⟩)
  cases step with
  | abandonIssue handle reason =>
      simp only [renumber, ends?, Pending.renumber, Handle.renumber, hticket]
  | expire id ticket =>
      simp only [renumber, ends?, event?, Pending.renumber, Handle.renumber, hticket]
  | cancel handle =>
      simp only [renumber, ends?, event?, Pending.renumber, Handle.renumber, hticket]
  | deliver now frame => cases frame <;> rfl
  | _ => rfl

/-- A step about one number ends no request of another one. -/
theorem ends?_of_about? {id : CorrelationId} (habout : step.about? = some id)
    (hother : request.handle.id ≠ id) : step.ends? request = none := by
  cases step with
  | abandonIssue handle reason =>
      cases habout
      exact if_neg fun hboth => hother hboth.1
  | expire other ticket =>
      cases habout
      exact if_neg fun hboth => hother hboth.1
  | cancel handle =>
      cases habout
      exact if_neg fun hboth => hother hboth.1
  | deliver now frame =>
      cases frame with
      | response response =>
          cases habout
          exact if_neg fun hboth => hother hboth.1.symm
      | _ => rfl
  | beginIssue other filter deadline => rfl
  | expect other filter now timeout => rfl
  | _ => exact nomatch habout

end RouterStep

namespace RequestTable

variable {table next single nextSingle : RequestTable} {number : Nat → Nat} {id : CorrelationId}
  {step : RouterStep} {request : Pending}

/-- A handle that a step gives out has the number that the step is about. -/
theorem about?_of_made? (hmade : table.made? step = some request) :
    step.about? = some request.handle.id := by
  cases step with
  | beginIssue other filter deadline => rw [made?_beginIssue hmade]; rfl
  | expect other filter now timeout => rw [made?_expect hmade]; rfl
  | _ => exact nomatch hmade

/-! ## Requests and their slots -/

/-- The requests of one number and their slots stand in a table by themselves, with tickets of
their own. -/
structure Mirrors (number : Nat → Nat) (id : CorrelationId) (table single : RequestTable) : Prop
    where
  pending : single.pending =
    (table.pending.filter fun request => request.handle.id == id).map (Pending.renumber number)
  slots : ∀ ticket, number ticket < single.slots.length →
    single.slots[number ticket]? = table.slots[ticket]?
  injective : ∀ first second, number first < single.slots.length →
    number first = number second → first = second

theorem Mirrors.find? (h : Mirrors number id table single) :
    single.find? id = (table.find? id).map (Pending.renumber number) := by
  rw [RequestTable.find?, h.pending, List.find?_map, List.find?_filter]
  congr 2
  funext request
  rw [Bool.eq_iff_iff]
  simp [Pending.renumber, Handle.renumber]

theorem Mirrors.isPending (h : Mirrors number id table single) :
    single.isPending id = table.isPending id := by
  rw [RequestTable.isPending, h.find?, Option.isSome_map, RequestTable.isPending]

theorem Mirrors.mem_pending (h : Mirrors number id table single) (hmem : request ∈ table.pending)
    (hid : request.handle.id = id) : request.renumber number ∈ single.pending := by
  rw [h.pending]
  exact List.mem_map_of_mem (List.mem_filter.mpr ⟨hmem, by simpa using hid⟩)

theorem Mirrors.exists_of_mem (h : Mirrors number id table single)
    (hmem : request ∈ single.pending) :
    ∃ own ∈ table.pending, own.handle.id = id ∧ own.renumber number = request := by
  rw [h.pending] at hmem
  obtain ⟨own, hown, heq⟩ := List.mem_map.mp hmem
  obtain ⟨hwaits, hid⟩ := List.mem_filter.mp hown
  exact ⟨own, hwaits, by simpa using hid, heq⟩

/-- Only tickets that have been given out are counted on the other side. -/
theorem Mirrors.lt (h : Mirrors number id table single) {ticket : Nat}
    (hlt : number ticket < single.slots.length) : ticket < table.slots.length := by
  have hslot := h.slots ticket hlt
  rw [List.getElem?_eq_getElem hlt] at hslot
  exact (List.getElem?_eq_some_iff.mp hslot.symm).1

theorem Mirrors.own_lt (h : Mirrors number id table single) (hsingle : single.Sound)
    (hmem : request ∈ table.pending) (hid : request.handle.id = id) :
    number request.handle.ticket < single.slots.length :=
  hsingle.ticket_lt (h.mem_pending hmem hid)

/-- The ticket of a request that waits with another number is not counted. -/
theorem Mirrors.foreign_not_lt (h : Mirrors number id table single) (hsound : table.Sound)
    (hsingle : single.Sound) (hmem : request ∈ table.pending) (hother : request.handle.id ≠ id) :
    ¬ number request.handle.ticket < single.slots.length := by
  intro hlt
  -- otherwise the empty slot belongs to a request on the other side, and so to one of this number
  have hslot := h.slots _ hlt
  rw [hsound.waiting request hmem] at hslot
  obtain ⟨found, hfound, hticket⟩ := hsingle.entered _ hslot
  obtain ⟨own, hown, hid, rfl⟩ := h.exists_of_mem hfound
  have heq := h.injective _ _ hlt hticket.symm
  rw [hsound.eq_of_ticket hown hmem heq.symm] at hid
  exact hother hid

/-- Steps that end requests on both sides, in the same way those of the one number. -/
theorem Mirrors.settles (h : Mirrors number id table single) (hsound : table.Sound)
    (hsingle : single.Sound) {verdict verdictSingle : Pending → Option Outcome}
    (hnext : table.Settles verdict next) (hnextSingle : single.Settles verdictSingle nextSingle)
    (hverdict : ∀ request ∈ table.pending, request.handle.id = id →
      verdictSingle (request.renumber number) = verdict request) :
    Mirrors number id next nextSingle where
  pending := by
    rw [hnextSingle.pending, hnext.pending, h.pending, List.filter_map,
      List.filter_comm fun request : Pending => request.handle.id == id]
    congr 1
    apply List.filter_congr
    intro request hmem
    obtain ⟨hwaits, hid⟩ := List.mem_filter.mp hmem
    rw [Function.comp_apply, hverdict request hwaits (by simpa using hid)]
  slots ticket hlt := by
    rw [hnextSingle.length] at hlt
    -- either a request waits with this ticket, or its slot is left alone on both sides
    by_cases hwaits : ∃ request ∈ table.pending, request.handle.ticket = ticket
    · obtain ⟨request, hmem, rfl⟩ := hwaits
      have hid : request.handle.id = id := by
        by_contra hother
        exact h.foreign_not_lt hsound hsingle hmem hother hlt
      rw [hnext.ended request hmem, ← hverdict request hmem hid]
      exact hnextSingle.ended _ (h.mem_pending hmem hid)
    · rw [hnext.others ticket fun request hmem heq => hwaits ⟨request, hmem, heq⟩,
        ← h.slots ticket hlt]
      apply hnextSingle.others
      intro request hmem heq
      obtain ⟨own, hown, -, rfl⟩ := h.exists_of_mem hmem
      exact hwaits ⟨own, hown, (h.injective _ _ hlt heq.symm).symm⟩
  injective first second hlt := by
    rw [hnextSingle.length] at hlt
    exact h.injective first second hlt

/-- A new handle for another number gets a ticket that is not counted. -/
theorem Mirrors.append_foreign (h : Mirrors number id table single) {content : Option Outcome}
    (hpending : (next.pending.filter fun request => request.handle.id == id) =
      table.pending.filter fun request => request.handle.id == id)
    (hslots : next.slots = table.slots ++ [content]) : Mirrors number id next single where
  pending := by rw [hpending, h.pending]
  slots ticket hlt := by rw [hslots, List.getElem?_append_left (h.lt hlt), h.slots ticket hlt]
  injective := h.injective

/-- A new handle for the one number gets the next ticket on both sides. -/
theorem Mirrors.append_own (h : Mirrors number id table single) {content : Option Outcome}
    (hfits : ∀ ticket, number ticket = single.slots.length ↔ ticket = table.slots.length)
    (hpending : nextSingle.pending =
      (next.pending.filter fun request => request.handle.id == id).map (Pending.renumber number))
    (hslots : next.slots = table.slots ++ [content])
    (hslotsSingle : nextSingle.slots = single.slots ++ [content]) :
    Mirrors number id next nextSingle where
  pending := hpending
  slots ticket hlt := by
    rw [hslotsSingle] at hlt ⊢
    rw [hslots]
    rcases Nat.lt_succ_iff_lt_or_eq.mp (by simpa using hlt) with hlt | heq
    · rw [List.getElem?_append_left hlt, List.getElem?_append_left (h.lt hlt), h.slots ticket hlt]
    · rw [heq, (hfits ticket).mp heq, List.getElem?_concat_length, List.getElem?_concat_length]
  injective first second hlt heq := by
    rw [hslotsSingle] at hlt
    rcases Nat.lt_succ_iff_lt_or_eq.mp (by simpa using hlt) with hlt | hlast
    · exact h.injective first second hlt heq
    · rw [(hfits first).mp hlast, (hfits second).mp (heq.symm.trans hlast)]

end RequestTable

end GroundLink
