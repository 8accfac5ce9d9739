import GroundLink.Proofs.Router.Slots

/-! # Responses kept back

A request that waits rejects every response kept back under its number: what it would accept was
either handed to it or was there before it entered the table, and then it would not have to wait.
The two sides of this invariant are filled by different operations, so it is carried through
every step together with the soundness of the table.
-/

namespace GroundLink

namespace RequestTable

variable {table : RequestTable}

/-- No request that waits would be answered by a response kept back. -/
def HeldRejected (table : RequestTable) : Prop :=
  ∀ request ∈ table.pending, ∀ kept ∈ table.held,
    kept.answers request.handle.id request.filter = false

theorem HeldRejected.apply (hrejected : table.HeldRejected) (h : table.Sound)
    (step : RouterStep) : (table.apply step).HeldRejected := by
  intro request hmem kept hkept
  cases h.effect step with
  | opens made hmade hticket hfree hpending hslots hidle hheld =>
      rw [hpending] at hmem
      rcases List.mem_append.mp hmem with hmem | hmem
      · exact hrejected request hmem kept (hheld kept hkept).1
      · rw [List.mem_singleton.mp hmem]
        exact (hheld kept hkept).2
  | serves made served hmade hstep hticket hpending hslots hidle hserved hanswers hheld =>
      rw [hpending] at hmem
      exact hrejected request hmem kept (hheld kept hkept)
  | settles hmade hsettles hheld =>
      rw [hsettles.pending] at hmem
      have hwaits := List.mem_of_mem_filter hmem
      rcases hheld kept hkept with hkept | ⟨now, rfl, owner, howner, hid, hrejects⟩
      · exact hrejected request hwaits kept hkept
      · -- the new response was rejected by the only request of its number
        by_cases heq : request.handle.id = kept.response.id
        · rw [h.eq_of_id hwaits howner (heq.trans hid.symm)]
          simp [HeldResponse.answers, hrejects]
        · simp [HeldResponse.answers, Ne.symm heq]

theorem HeldRejected.run (hrejected : table.HeldRejected) (h : table.Sound)
    (steps : List RouterStep) : (table.run steps).HeldRejected := by
  induction steps generalizing table with
  | nil => exact hrejected
  | cons step rest ih => exact ih (hrejected.apply h step) (h.apply step)

theorem heldRejected_run (steps : List RouterStep) :
    (({} : RequestTable).run steps).HeldRejected :=
  HeldRejected.run (fun _ hmem => absurd hmem List.not_mem_nil) Sound.empty steps

/-- After any steps in any order, the filter of a request that waits rejects every response kept
back under its number; so no response kept back would answer a request whose slot is empty. -/
theorem waiting_rejects_held (steps : List RouterStep) :
    let table := ({} : RequestTable).run steps
    (∀ request ∈ table.pending, ∀ kept ∈ table.held,
      kept.response.id = request.handle.id →
        request.filter.accepts kept.response.kind = false) ∧
    ∀ request ∈ ({} : RequestTable).made steps,
      table.outcome? request.handle.ticket = none →
        ∀ kept ∈ table.held, kept.answers request.handle.id request.filter = false := by
  have hsound := sound_run steps
  have hrejected := heldRejected_run steps
  constructor
  · intro request hmem kept hkept hid
    simpa [HeldResponse.answers, hid] using hrejected request hmem kept hkept
  · intro request hmade hnone
    have htracks := Sound.empty.tracks_of_mem_made hmade
    exact hrejected request ((hsound.outcome?_eq_none_iff htracks).mp hnone)

/-- A failure is kept back from a request that waits for success. -/
theorem waiting_rejects_held_failure :
    let failure : Response := ⟨⟨.terminal, .error 3⟩, 7, []⟩
    let request : Pending := ⟨⟨7, 0, 1000⟩, .success .terminal⟩
    let steps : List RouterStep :=
      [.beginIssue 7 (.success .terminal) 1000, .deliver 5 (.response failure)]
    let table := ({} : RequestTable).run steps
    request ∈ table.pending ∧ request ∈ ({} : RequestTable).made steps ∧
      table.outcome? 0 = none ∧ ⟨5, failure⟩ ∈ table.held ∧
      request.filter.accepts failure.kind = false ∧
      HeldResponse.answers ⟨5, failure⟩ 7 (.success .terminal) = false := by
  have h := waiting_rejects_held [.beginIssue 7 (.success .terminal) 1000,
    .deliver 5 (.response ⟨⟨.terminal, .error 3⟩, 7, []⟩)]
  refine ⟨by decide, by decide, by decide, by decide, ?_, ?_⟩
  · exact h.1 ⟨⟨7, 0, 1000⟩, .success .terminal⟩ (by decide)
      ⟨5, ⟨⟨.terminal, .error 3⟩, 7, []⟩⟩ (by decide) rfl
  · exact h.2 ⟨⟨7, 0, 1000⟩, .success .terminal⟩ (by decide) (by decide)
      ⟨5, ⟨⟨.terminal, .error 3⟩, 7, []⟩⟩ (by decide)

end RequestTable

end GroundLink
