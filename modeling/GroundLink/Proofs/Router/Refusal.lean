import GroundLink.Proofs.Router.Effect
import GroundLink.Router.Basic

/-! # Refused requests

A request is refused before anything is sent when the router has been torn down, when the link is
gone, or when its number is taken. The first two refusals leave no trace. The third comes after
the responses kept back for the number have been dropped, and so takes them away from the request
that waits with it: the router remains what it was exactly when nothing was kept for that request.
-/

namespace GroundLink

namespace RequestTable

variable {table : RequestTable} {id : CorrelationId} {filter : FrameFilter} {deadline : Nat}
  {error : RouterError}

theorem ensureOpen_ne_duplicateId {other : CorrelationId} :
    table.ensureOpen id ≠ .error (.duplicateId other) := by
  unfold ensureOpen
  split
  · simp
  · split <;> simp

/-- A refusal comes from a router that is not open, and then nothing happens, or from a number
that is taken, and then what is kept back for it is lost. -/
theorem beginIssue_refused (h : (table.beginIssue id filter deadline).1 = .error error) :
    table.ensureOpen id = .error error ∧ (table.beginIssue id filter deadline).2 = table ∨
    table.ensureOpen id = .ok () ∧ table.isPending id = true ∧ error = .duplicateId id ∧
      (table.beginIssue id filter deadline).2 = table.dropHeld id := by
  unfold beginIssue at h ⊢
  cases hensure : table.ensureOpen id with
  | error refusal =>
      rw [hensure] at h
      cases h
      exact Or.inl ⟨rfl, rfl⟩
  | ok _ =>
      rw [hensure] at h
      dsimp only at h ⊢
      cases hpending : table.isPending id with
      | false =>
          have hfree : (table.dropHeld id).isPending id = false := hpending
          rw [register_of_free filter deadline hfree] at h
          exact nomatch h
      | true =>
          have htaken : (table.dropHeld id).isPending id = true := hpending
          rw [register_of_isPending filter deadline htaken] at h ⊢
          cases h
          exact Or.inr ⟨rfl, rfl, rfl, rfl⟩

theorem dropHeld_eq_self_iff :
    table.dropHeld id = table ↔ ∀ kept ∈ table.held, kept.response.id ≠ id := by
  constructor
  · intro heq
    have hheld : (table.dropHeld id).held = table.held := congrArg held heq
    simpa [dropHeld, List.filter_eq_self] using hheld
  · intro hother
    have hheld : table.held.filter (fun kept => kept.response.id != id) = table.held :=
      List.filter_eq_self.mpr (by simpa using hother)
    rw [dropHeld, hheld]

end RequestTable

namespace Router

variable {router : Router} {request : CorrelatedRequest} {error : RouterError}

/-- A request that cannot be entered is not sent. -/
theorem issue_refused (h : (router.register request).1 = .error error) :
    (router.table.beginIssue request.id request.filter (router.now + request.timeout)).1 =
        .error error ∧
      router.issue request = (.error error, { router with
        table := (router.table.beginIssue request.id request.filter
          (router.now + request.timeout)).2 }) := by
  unfold register at h
  split at h
  next => exact nomatch h
  next refusal table hbegin =>
    cases h
    simp only [issue, register, hbegin]
    exact ⟨trivial, trivial⟩

end Router

/-- A request refused before anything is sent leaves requests, outcomes, time, timer and transport
as they are. When the router is not open it loses nothing else either. When the number is taken it
loses the responses kept back under this number, and these only; so everything is as before exactly
when there were none. -/
theorem refused_request_keeps_router_iff {router : Router} {request : CorrelatedRequest}
    {error : RouterError} (hrefused : (router.register request).1 = .error error) :
    (router.issue request).1 = .error error ∧
    (router.table.ensureOpen request.id = .error error ∧ (router.issue request).2 = router ∨
      error = .duplicateId request.id ∧ router.table.isPending request.id = true ∧
        (router.issue request).2 = { router with table := router.table.dropHeld request.id }) ∧
    ((router.issue request).2 = router ↔
      error ≠ .duplicateId request.id ∨
        ∀ kept ∈ router.table.held, kept.response.id ≠ request.id) := by
  obtain ⟨hbegin, hissue⟩ := Router.issue_refused hrefused
  rw [hissue]
  refine ⟨rfl, ?_⟩
  rcases RequestTable.beginIssue_refused hbegin with
    ⟨hensure, hnext⟩ | ⟨hensure, hpending, rfl, hnext⟩
  · rw [hnext]
    refine ⟨Or.inl ⟨hensure, rfl⟩, iff_of_true rfl (Or.inl ?_)⟩
    rintro rfl
    exact RequestTable.ensureOpen_ne_duplicateId hensure
  · rw [hnext]
    refine ⟨Or.inr ⟨rfl, hpending, rfl⟩, ?_⟩
    rw [← RequestTable.dropHeld_eq_self_iff]
    constructor
    · exact fun heq => Or.inr (congrArg Router.table heq)
    · rintro (hother | heq)
      · exact absurd rfl hother
      · rw [heq]

/-- Another request with the number of one that waits is refused, and a failure kept back for the
one that waits is lost. -/
theorem refused_request_keeps_router_iff_taken :
    let failure : Response := ⟨⟨.terminal, .error 3⟩, 7, []⟩
    let first : CorrelatedRequest := ⟨7, [], .success .terminal, 60000⟩
    let second : CorrelatedRequest := ⟨7, [], .any, 60000⟩
    let router := (({} : Router).issue first).2.deliver (.response failure)
    (router.register second).1 = .error (.duplicateId 7) ∧
      router.table.held = [⟨0, failure⟩] ∧ (router.issue second).2.table.held = [] ∧
      ((router.issue second).2 = router ↔
        .duplicateId 7 ≠ RouterError.duplicateId 7 ∨
          ∀ kept ∈ router.table.held, kept.response.id ≠ 7) := by
  refine ⟨by decide, by decide, by decide, ?_⟩
  exact (@refused_request_keeps_router_iff
    ((({} : Router).issue ⟨7, [], .success .terminal, 60000⟩).2.deliver
      (.response ⟨⟨.terminal, .error 3⟩, 7, []⟩))
    ⟨7, [], .any, 60000⟩ _ (by decide)).2.2

/-- It is not true that a refused request loses nothing: after a failure has been kept back for a
request that waits for success, another request with its number is refused, and a later one for the
failure under this number is not served, as it would have been. -/
theorem refused_request_loses_held :
    let failure : Response := ⟨⟨.terminal, .error 3⟩, 7, []⟩
    let steps : List RouterStep :=
      [.beginIssue 7 (.success .terminal) 60000, .deliver 0 (.response failure)]
    let refused : RouterStep := .beginIssue 7 .any 60000
    let later : List RouterStep := [.deliver 0 (.response ⟨⟨.terminal, .success⟩, 7, []⟩),
      .expect 7 (.error .terminal) 0 60000]
    let table := ({} : RequestTable).run steps
    (table.beginIssue 7 .any 60000).1 = .error (.duplicateId 7) ∧
      ((table.apply refused).held ≠ table.held) ∧
      (table.run later).outcome? 1 = some (.fulfilled failure) ∧
      ((table.apply refused).run later).outcome? 1 = none := by
  decide

end GroundLink
