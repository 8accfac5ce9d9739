import GroundLink.Proofs.Router.Waiting

/-! # The first event decides

Responses, time, cancellations, teardown and the end of the link race for the slot of a request.
Among the steps after its registration the first one that concerns it fills the slot, and nothing
afterwards counts, whether the send was still at work then or nobody had begun to wait.
-/

namespace GroundLink

variable {request : Pending} {steps : List RouterStep}

namespace RequestTable

variable {table : RequestTable}

/-- The slot of a request that waits shows what the first step has made of it that ends it. -/
theorem Sound.outcome?_run_pending (h : table.Sound) (hmem : request ∈ table.pending)
    (steps : List RouterStep) :
    (table.run steps).outcome? request.handle.ticket =
      steps.findSome? (RouterStep.ends? request) := by
  induction steps generalizing table with
  | nil => exact h.outcome?_pending hmem
  | cons step rest ih =>
      rw [run_cons, List.findSome?_cons]
      cases hends : step.ends? request with
      | none => exact ih (h.apply step) (h.mem_pending_apply hmem hends)
      | some outcome =>
          -- the first step that ends the request; no later one changes its slot
          apply (h.apply step).outcome?_run
          rw [h.outcome?_apply_pending hmem, hends]

end RequestTable

namespace RouterStep

/-- What `wait` returns for a request if this step comes first of all that concern it. -/
def verdict? (request : Pending) : RouterStep → Option (Except RouterError Response)
  | .deliver _ (.response response) =>
      if response.id = request.handle.id ∧ request.filter.accepts response.kind then
        some (.ok response)
      else none
  | .expire id ticket =>
      if request.handle.id = id ∧ request.handle.ticket = ticket then
        some (.error (.timeout request.handle.id))
      else none
  | .cancel handle =>
      if request.handle.id = handle.id ∧ request.handle.ticket = handle.ticket then
        some (.error (.cancelled request.handle.id))
      else none
  | .cancelAll => some (.error (.cancelled request.handle.id))
  | .close reason => some (.error (.transportUnavailable reason))
  | _ => none

/-- The verdict of a step is what its event has `wait` return. -/
theorem map_result_event? (step : RouterStep) (request : Pending) :
    (step.event? request).map (Outcome.result request.handle.id) = step.verdict? request := by
  cases step with
  | deliver now frame =>
      cases frame with
      | response response => exact apply_ite (Option.map _) _ _ _
      | _ => rfl
  | expire | cancel => exact apply_ite (Option.map _) _ _ _
  | _ => rfl

theorem map_result_findSome?_event? (steps : List RouterStep) (request : Pending) :
    (steps.findSome? (event? request)).map (Outcome.result request.handle.id) =
      steps.findSome? (verdict? request) := by
  rw [List.map_findSome?]
  congr 1
  funext step
  exact step.map_result_event? request

/-- A step that does not abandon a request ends it only as an event. -/
theorem ends?_eq_event? {step : RouterStep}
    (hstep : ∀ handle reason, step = .abandonIssue handle reason →
      handle.ticket ≠ request.handle.ticket) :
    step.ends? request = step.event? request := by
  cases step with
  | abandonIssue handle reason =>
      exact if_neg fun hboth => hstep handle reason rfl hboth.2.symm
  | _ => rfl

end RouterStep

theorem findSome?_ends?_eq_event?
    (hsteps : ∀ handle reason, .abandonIssue handle reason ∈ steps →
      handle.ticket ≠ request.handle.ticket) :
    steps.findSome? (RouterStep.ends? request) = steps.findSome? (RouterStep.event? request) := by
  induction steps with
  | nil => rfl
  | cons step rest ih =>
      have hstep : step.ends? request = step.event? request :=
        RouterStep.ends?_eq_event? fun handle reason heq =>
          hsteps handle reason (heq ▸ List.mem_cons_self)
      have hrest := ih fun handle reason hmem =>
        hsteps handle reason (List.mem_cons_of_mem step hmem)
      rw [List.findSome?_cons, List.findSome?_cons, hstep, hrest]

/-- No step abandons a request whose `issue` has not failed. -/
theorem Traffic.Valid.not_abandoned {traffic : Traffic} (h : traffic.Valid) {call : IssueCall}
    (hcall : call ∈ traffic.issues) (hgoing : ¬ call.HasFailed) {handle : Handle}
    {reason : String} (hmem : .abandonIssue handle reason ∈ traffic.log) :
    handle.ticket ≠ call.handle.ticket := by
  intro hticket
  obtain ⟨other, hother, rfl, hfailed⟩ := h.abandoned handle reason hmem
  rw [List.inj_on_of_nodup_map h.tickets hother hcall hticket] at hfailed
  exact hgoing hfailed

/-- For every request whose send succeeds, however the turns of all callers, the reader and the
timer are mixed: its slot shows the first event after its registration that concerns it, and a
call of `wait` for its handle returns the verdict of this event and nothing else. -/
theorem first_event_decides_wait {turns : List Turn} {traffic : Traffic}
    (hplay : ({} : Traffic).play? turns = some traffic) {call : IssueCall}
    (hcall : call ∈ traffic.issues) (hsent : call.stage = .returned (.ok call.handle)) :
    ∃ before deadline after,
      traffic.log = before ++ .beginIssue call.request.id call.request.filter deadline :: after ∧
      (({} : RequestTable).run before).made?
        (.beginIssue call.request.id call.request.filter deadline) = some call.pending ∧
      call.handle.id = call.request.id ∧
      traffic.table.outcome? call.handle.ticket =
        after.findSome? (RouterStep.event? call.pending) ∧
      ∀ (index : Nat) (wait : WaitCall), traffic.waits[index]? = some wait →
        wait.handle = call.handle →
        (∀ result, wait.stage = .returned result →
          after.findSome? (RouterStep.verdict? call.pending) = some result) ∧
        ∀ result, wait.stage = .looking →
          after.findSome? (RouterStep.verdict? call.pending) = some result →
          ∃ next, traffic.take? (.look index) = some next ∧
            next.waits[index]? = some { wait with stage := .returned result } := by
  have hvalid := Traffic.Valid.empty.play? hplay
  obtain ⟨before, deadline, after, hlog, -, hmade⟩ := hvalid.issues call hcall
  have hid : call.handle.id = call.request.id := by
    have heq := RequestTable.made?_beginIssue hmade
    exact congrArg (fun request : Pending => request.handle.id) heq
  have hslot : traffic.table.outcome? call.handle.ticket =
      after.findSome? (RouterStep.event? call.pending) := by
    have hsound := RequestTable.sound_run before
    have hmem := hsound.mem_pending_beginIssue hmade
    have hrun := (hsound.apply _).outcome?_run_pending hmem after
    rw [findSome?_ends?_eq_event?] at hrun
    · rw [hvalid.table, hlog, RequestTable.run_append, RequestTable.run_cons]
      exact hrun
    · intro handle reason habandoned
      apply hvalid.not_abandoned hcall (IssueCall.not_hasFailed hsent nofun)
      rw [hlog]
      exact List.mem_append_right _ (List.mem_cons_of_mem _ habandoned)
  -- the verdicts are what the slot has `wait` return
  have hverdict : after.findSome? (RouterStep.verdict? call.pending) =
      (traffic.table.outcome? call.handle.ticket).map (Outcome.result call.handle.id) := by
    rw [hslot, ← RouterStep.map_result_findSome?_event?, IssueCall.pending]
  refine ⟨before, deadline, after, hlog, hmade, hid, hslot, ?_⟩
  intro index wait hwait hhandle
  rw [hverdict, ← hhandle]
  constructor
  · intro result hstage
    have hreturned := (hvalid.waits wait (List.mem_of_getElem? hwait)).returned result hstage
    obtain ⟨outcome, hfilled, rfl⟩ := hreturned
    rw [hvalid.table, hfilled, Option.map_some]
  · intro result hstage hresult
    obtain ⟨outcome, hfilled, rfl⟩ := Option.map_eq_some_iff.mp hresult
    exact Traffic.take?_look_filled hwait hstage hfilled

/-- The response comes while the send is still at work; the cancellation that follows, the end of
the link and a second response change nothing. -/
theorem first_event_decides_wait_during_send :
    let response : Response := ⟨⟨.terminal, .success⟩, 7, [42]⟩
    let turns : List Turn := [.issue ⟨7, [1], .apid .terminal, 10⟩, .startSend 0,
      .deliver (.response response), .endSend 0 (.ok ()), .cancel ⟨7, 0, 10⟩, .close "gone",
      .deliver (.response ⟨⟨.terminal, .error 1⟩, 7, []⟩), .wait ⟨7, 0, 10⟩, .look 0]
    ∃ traffic call, ({} : Traffic).play? turns = some traffic ∧ call ∈ traffic.issues ∧
      call.stage = .returned (.ok call.handle) ∧ call.pending = ⟨⟨7, 0, 10⟩, .apid .terminal⟩ ∧
      ∃ before deadline after,
        traffic.log = before ++ .beginIssue 7 (.apid .terminal) deadline :: after ∧
        traffic.table.outcome? 0 = after.findSome? (RouterStep.event? call.pending) ∧
        traffic.table.outcome? 0 = some (.fulfilled response) ∧
        after.findSome? (RouterStep.verdict? call.pending) = some (.ok response) := by
  obtain ⟨before, deadline, after, hlog, -, -, hslot, hwaits⟩ := @first_event_decides_wait
    [.issue ⟨7, [1], .apid .terminal, 10⟩, .startSend 0,
      .deliver (.response ⟨⟨.terminal, .success⟩, 7, [42]⟩), .endSend 0 (.ok ()),
      .cancel ⟨7, 0, 10⟩, .close "gone", .deliver (.response ⟨⟨.terminal, .error 1⟩, 7, []⟩),
      .wait ⟨7, 0, 10⟩, .look 0] _ rfl
    ⟨⟨7, [1], .apid .terminal, 10⟩, ⟨7, 0, 10⟩, 0, .returned (.ok ⟨7, 0, 10⟩)⟩
    List.mem_cons_self rfl
  refine ⟨_, _, rfl, List.mem_cons_self, rfl, rfl, before, deadline, after, hlog, hslot, rfl, ?_⟩
  exact (hwaits 0 _ rfl rfl).1 _ rfl

end GroundLink
