import GroundLink.Proofs.Router.Effect

/-! # Slots are filled once

The slot of a handle is empty exactly as long as its request waits. Once it is filled no step
touches it again, and a step that takes the request out of the table fills it.
-/

namespace GroundLink

namespace RequestTable

variable {table : RequestTable} {request : Pending}

theorem outcome?_eq_of_getElem? {ticket : Nat} {content : Option Outcome}
    (h : table.slots[ticket]? = some content) : table.outcome? ticket = content := by
  rw [outcome?, h]
  rfl

theorem getElem?_of_outcome? {ticket : Nat} {outcome : Outcome}
    (h : table.outcome? ticket = some outcome) : table.slots[ticket]? = some (some outcome) :=
  Option.join_eq_some_iff.mp h

theorem Sound.outcome?_pending (h : table.Sound) (hmem : request ∈ table.pending) :
    table.outcome? request.handle.ticket = none :=
  outcome?_eq_of_getElem? (h.waiting request hmem)

/-- A step that gives out a handle ends nothing. -/
theorem ends?_of_made? {step : RouterStep} {made : Pending} (h : table.made? step = some made)
    (request : Pending) : step.ends? request = none := by
  cases step <;> first | rfl | exact nomatch h

/-- What a step makes of a request that waits is found in its slot. -/
theorem Sound.outcome?_apply_pending (h : table.Sound) (hmem : request ∈ table.pending)
    (step : RouterStep) :
    (table.apply step).outcome? request.handle.ticket = step.ends? request := by
  apply outcome?_eq_of_getElem?
  cases h.effect step with
  | opens made hmade hticket hfree hpending hslots hidle hheld =>
      rw [hslots, ends?_of_made? hmade, h.getElem?_append hmem]
  | serves made kept hmade hstep hticket hpending hslots hidle hkept hanswers hheld =>
      rw [hslots, ends?_of_made? hmade, h.getElem?_append hmem]
  | settles hmade hsettles hheld => exact hsettles.ended request hmem

/-- A request that a step does not end still waits after it. -/
theorem Sound.mem_pending_apply (h : table.Sound) (hmem : request ∈ table.pending)
    {step : RouterStep} (hends : step.ends? request = none) :
    request ∈ (table.apply step).pending := by
  cases h.effect step with
  | opens made hmade hticket hfree hpending hslots hidle hheld =>
      rw [hpending]
      exact List.mem_append_left _ hmem
  | serves made kept hmade hstep hticket hpending hslots hidle hkept hanswers hheld =>
      rw [hpending]
      exact hmem
  | settles hmade hsettles hheld =>
      rw [hsettles.pending]
      exact List.mem_filter.mpr ⟨hmem, Option.isNone_iff_eq_none.mpr hends⟩

/-- There is one slot more for every handle that is given out. -/
theorem Sound.slots_length_apply (h : table.Sound) (step : RouterStep) :
    (table.apply step).slots.length =
      table.slots.length + (table.made? step).toList.length := by
  cases h.effect step with
  | opens made hmade hticket hfree hpending hslots hidle hheld =>
      rw [hslots, hmade, List.length_append]
      rfl
  | serves made kept hmade hstep hticket hpending hslots hidle hkept hanswers hheld =>
      rw [hslots, hmade, List.length_append]
      rfl
  | settles hmade hsettles hheld =>
      rw [hsettles.length, hmade]
      rfl

theorem Sound.slots_length_run (h : table.Sound) (steps : List RouterStep) :
    (table.run steps).slots.length = table.slots.length + (table.made steps).length := by
  induction steps generalizing table with
  | nil => rfl
  | cons step rest ih =>
      rw [run_cons, ih (h.apply step), h.slots_length_apply, made, List.length_append,
        Nat.add_assoc]

/-- No step changes a filled slot. -/
theorem Sound.outcome?_apply (h : table.Sound) {ticket : Nat} {outcome : Outcome}
    (hfilled : table.outcome? ticket = some outcome) (step : RouterStep) :
    (table.apply step).outcome? ticket = some outcome := by
  have hslot := getElem?_of_outcome? hfilled
  have hlt : ticket < table.slots.length := (List.getElem?_eq_some_iff.mp hslot).1
  apply outcome?_eq_of_getElem?
  cases h.effect step with
  | opens made hmade hticket hfree hpending hslots hidle hheld =>
      rw [hslots, List.getElem?_append_left hlt, hslot]
  | serves made kept hmade hstep hticket hpending hslots hidle hkept hanswers hheld =>
      rw [hslots, List.getElem?_append_left hlt, hslot]
  | settles hmade hsettles hheld =>
      -- no request that waits has a filled slot
      rw [hsettles.others, hslot]
      rintro other hother rfl
      rw [h.waiting other hother] at hslot
      exact nomatch hslot

theorem Sound.outcome?_run (h : table.Sound) {ticket : Nat} {outcome : Outcome}
    (hfilled : table.outcome? ticket = some outcome) (steps : List RouterStep) :
    (table.run steps).outcome? ticket = some outcome := by
  induction steps generalizing table with
  | nil => exact hfilled
  | cons step rest ih => exact ih (h.apply step) (h.outcome?_apply hfilled step)

/-! ## Handles that have been given out -/

/-- A handle's ticket belongs to a slot, and to no request but its own. -/
structure Tracks (table : RequestTable) (request : Pending) : Prop where
  lt : request.handle.ticket < table.slots.length
  own : ∀ other ∈ table.pending, other.handle.ticket = request.handle.ticket → other = request

theorem Sound.tracks_of_mem (h : table.Sound) (hmem : request ∈ table.pending) :
    table.Tracks request where
  lt := h.ticket_lt hmem
  own _ hother heq := h.eq_of_ticket hother hmem heq

/-- A new handle gets the next ticket. -/
theorem Sound.ticket_of_made? (h : table.Sound) {step : RouterStep}
    (hmade : table.made? step = some request) :
    request.handle.ticket = table.slots.length := by
  cases h.effect step with
  | opens made hmade' hticket hfree hpending hslots hidle hheld =>
      exact Option.some_inj.mp (hmade'.symm.trans hmade) ▸ hticket
  | serves made kept hmade' hstep hticket hpending hslots hidle hkept hanswers hheld =>
      exact Option.some_inj.mp (hmade'.symm.trans hmade) ▸ hticket
  | settles hmade' hsettles hheld => exact nomatch hmade'.symm.trans hmade

/-- The handles given out during a run have the tickets from the next one on, in order. -/
theorem Sound.tickets_made (h : table.Sound) (steps : List RouterStep) :
    (table.made steps).map (fun request => request.handle.ticket) =
      List.range' table.slots.length (table.made steps).length := by
  induction steps generalizing table with
  | nil => rfl
  | cons step rest ih =>
      have hlength := h.slots_length_apply step
      rw [made, List.map_append, ih (h.apply step), hlength, List.length_append]
      cases hmade : table.made? step with
      | none => simp
      | some request =>
          simp [h.ticket_of_made? hmade, List.range'_succ, Nat.add_comm 1]

/-- No two handles share a ticket. -/
theorem nodup_tickets_made (steps : List RouterStep) :
    ((({} : RequestTable).made steps).map fun request => request.handle.ticket).Nodup := by
  rw [Sound.empty.tickets_made]
  exact List.nodup_range'

theorem eq_of_ticket_made {steps : List RouterStep} {first second : Pending}
    (hfirst : first ∈ ({} : RequestTable).made steps)
    (hsecond : second ∈ ({} : RequestTable).made steps)
    (heq : first.handle.ticket = second.handle.ticket) : first = second :=
  List.inj_on_of_nodup_map (nodup_tickets_made steps) hfirst hsecond heq

theorem Sound.tracks_of_made? (h : table.Sound) {step : RouterStep}
    (hmade : table.made? step = some request) : (table.apply step).Tracks request := by
  cases h.effect step with
  | opens made hmade' hticket hfree hpending hslots hidle hheld =>
      obtain rfl : made = request := Option.some_inj.mp (hmade'.symm.trans hmade)
      apply (h.apply step).tracks_of_mem
      rw [hpending]
      exact List.mem_append_right _ (List.mem_singleton_self _)
  | serves made kept hmade' hstep hticket hpending hslots hidle hkept hanswers hheld =>
      obtain rfl : made = request := Option.some_inj.mp (hmade'.symm.trans hmade)
      refine ⟨by rw [hslots, List.length_append, List.length_singleton]; omega, ?_⟩
      intro other hother heq
      rw [hpending] at hother
      have hlt := h.ticket_lt hother
      omega
  | settles hmade' hsettles hheld => exact nomatch hmade'.symm.trans hmade

theorem Tracks.apply (htracks : table.Tracks request) (h : table.Sound) (step : RouterStep) :
    (table.apply step).Tracks request := by
  have hlt := htracks.lt
  cases h.effect step with
  | opens made hmade hticket hfree hpending hslots hidle hheld =>
      refine ⟨by rw [hslots, List.length_append]; omega, ?_⟩
      intro other hother heq
      rw [hpending] at hother
      rcases List.mem_append.mp hother with hother | hother
      · exact htracks.own other hother heq
      · rw [List.mem_singleton.mp hother] at heq
        omega
  | serves made kept hmade hstep hticket hpending hslots hidle hkept hanswers hheld =>
      refine ⟨by rw [hslots, List.length_append]; omega, ?_⟩
      rw [hpending]
      exact htracks.own
  | settles hmade hsettles hheld =>
      refine ⟨by rw [hsettles.length]; exact hlt, ?_⟩
      intro other hother heq
      rw [hsettles.pending] at hother
      exact htracks.own other (List.mem_of_mem_filter hother) heq

theorem Tracks.run (htracks : table.Tracks request) (h : table.Sound) (steps : List RouterStep) :
    (table.run steps).Tracks request := by
  induction steps generalizing table with
  | nil => exact htracks
  | cons step rest ih => exact ih (htracks.apply h step) (h.apply step)

theorem Sound.tracks_of_mem_made (h : table.Sound) {steps : List RouterStep}
    (hmade : request ∈ table.made steps) : (table.run steps).Tracks request := by
  induction steps generalizing table with
  | nil => exact absurd hmade List.not_mem_nil
  | cons step rest ih =>
      rcases List.mem_append.mp hmade with hmade | hmade
      · have htracks := h.tracks_of_made? (Option.mem_toList.mp hmade)
        exact htracks.run (h.apply step) rest
      · exact ih (h.apply step) hmade

/-- A request to be sent waits as soon as it has been entered. -/
theorem Sound.mem_pending_beginIssue (h : table.Sound) {id : CorrelationId}
    {filter : FrameFilter} {deadline : Nat}
    (hmade : table.made? (.beginIssue id filter deadline) = some request) :
    request ∈ (table.apply (.beginIssue id filter deadline)).pending := by
  cases h.effect (.beginIssue id filter deadline) with
  | opens made hmade' hticket hfree hpending hslots hidle hheld =>
      obtain rfl : made = request := Option.some_inj.mp (hmade'.symm.trans hmade)
      rw [hpending]
      exact List.mem_append_right _ (List.mem_singleton_self _)
  | serves made kept hmade' hstep hticket hpending hslots hidle hkept hanswers hheld =>
      exact absurd rfl (hstep id filter deadline)
  | settles hmade' hsettles hheld => exact nomatch hmade'.symm.trans hmade

/-- The slot of a handle is empty exactly as long as its request waits. -/
theorem Sound.outcome?_eq_none_iff (h : table.Sound) (htracks : table.Tracks request) :
    table.outcome? request.handle.ticket = none ↔ request ∈ table.pending := by
  refine ⟨fun hnone => ?_, h.outcome?_pending⟩
  have hslot : table.slots[request.handle.ticket]? = some none := by
    rw [List.getElem?_eq_getElem htracks.lt, Option.some_inj]
    rwa [outcome?, List.getElem?_eq_getElem htracks.lt] at hnone
  obtain ⟨other, hother, heq⟩ := h.entered _ hslot
  exact htracks.own other hother heq ▸ hother

theorem Sound.mem_pending_iff (h : table.Sound) (htracks : table.Tracks request) :
    request ∈ table.pending ↔ ∃ entry, table.find? request.handle.id = some entry ∧
      entry.handle.ticket = request.handle.ticket := by
  constructor
  · exact fun hmem => ⟨request, h.find?_eq_some_iff.mpr ⟨hmem, rfl⟩, rfl⟩
  · rintro ⟨entry, hfind, heq⟩
    obtain ⟨hentry, -⟩ := find?_mem hfind
    exact htracks.own entry hentry heq ▸ hentry

/-- The end of a request by its own number and ticket leaves its slot filled. -/
theorem Sound.outcome?_expire_isSome (h : table.Sound) (htracks : table.Tracks request) :
    ((table.expire request.handle.id request.handle.ticket).outcome?
      request.handle.ticket).isSome := by
  change ((table.apply (.expire request.handle.id request.handle.ticket)).outcome?
    request.handle.ticket).isSome
  cases hfilled : table.outcome? request.handle.ticket with
  | none =>
      rw [h.outcome?_apply_pending ((h.outcome?_eq_none_iff htracks).mp hfilled)]
      simp [RouterStep.ends?, RouterStep.event?]
  | some outcome =>
      rw [h.outcome?_apply hfilled]
      rfl

end RequestTable

end GroundLink
