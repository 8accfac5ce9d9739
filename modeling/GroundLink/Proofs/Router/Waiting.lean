import GroundLink.Proofs.Router.Calls
import GroundLink.Proofs.Router.Operations

/-! # Every wait ends with the first outcome

An empty slot always has its request in the table, so ending the request by number and ticket
fills the slot, and the call that does so finds an outcome when it looks again. It never ends a
request twice, and what it returns is what was written into the slot first, whichever threads
came between.
-/

namespace GroundLink

/-- What the one who waits for a request is told of each way it may end. -/
inductive Outcome.Tells (id : CorrelationId) : Outcome → Except RouterError Response → Prop where
  | fulfilled (response : Response) : Tells id (.fulfilled response) (.ok response)
  | timedOut : Tells id .timedOut (.error (.timeout id))
  | cancelled : Tells id .cancelled (.error (.cancelled id))
  | failed (reason : String) : Tells id (.failed reason) (.error (.transportUnavailable reason))

theorem Outcome.tells_result (outcome : Outcome) (id : CorrelationId) :
    Tells id outcome (outcome.result id) := by
  cases outcome with
  | fulfilled response => exact .fulfilled response
  | timedOut => exact .timedOut
  | cancelled => exact .cancelled
  | failed reason => exact .failed reason

theorem Outcome.Tells.eq_result {id : CorrelationId} {outcome : Outcome}
    {result : Except RouterError Response} (h : Tells id outcome result) :
    result = outcome.result id := by
  cases h <;> rfl

namespace RequestTable

variable {table : RequestTable}

/-- What is written first into a slot during a run. -/
def firstOutcome? (table : RequestTable) (ticket : Nat) : List RouterStep → Option Outcome
  | [] => table.outcome? ticket
  | step :: rest =>
      match table.outcome? ticket with
      | some outcome => some outcome
      | none => (table.apply step).firstOutcome? ticket rest

/-- What was written first is what is there in the end. -/
theorem Sound.firstOutcome?_eq (h : table.Sound) (ticket : Nat) (steps : List RouterStep) :
    table.firstOutcome? ticket steps = (table.run steps).outcome? ticket := by
  induction steps generalizing table with
  | nil => rfl
  | cons step rest ih =>
      unfold firstOutcome?
      split
      next outcome hfilled => exact (h.outcome?_run hfilled (step :: rest)).symm
      next => exact ih (h.apply step)

end RequestTable

namespace Router

/-- Waiting up to the deadline leads to a filled slot. -/
theorem settle_filled {router : Router} (h : router.table.Sound) {request : Pending}
    (htracks : router.table.Tracks request) :
    ∃ steps, (router.settle request.handle).table = router.table.run steps ∧
      ∃ outcome, (router.settle request.handle).table.outcome? request.handle.ticket =
        some outcome := by
  by_cases hresolved : router.isResolved request.handle
  · rw [settle_of_resolved hresolved]
    exact ⟨[], rfl, Option.isSome_iff_exists.mp hresolved⟩
  · obtain ⟨now, timer, due, hsettle⟩ := settle_of_unresolved hresolved
    rw [hsettle]
    refine ⟨_, rfl, Option.isSome_iff_exists.mp ?_⟩
    -- the timer may have been faster; then the slot is filled already
    rw [List.map_append, RequestTable.run_append]
    exact (h.run _).outcome?_expire_isSome (htracks.run h _)

/-- Waiting returns what is in the slot, and what was there before if anything was. -/
theorem wait_returns_outcome {router : Router} (h : router.table.Sound) {request : Pending}
    (htracks : router.table.Tracks request) :
    ∃ outcome, outcome.Tells request.handle.id (router.wait request.handle).1 ∧
      (router.wait request.handle).2.table.outcome? request.handle.ticket = some outcome ∧
      ∀ earlier, router.table.outcome? request.handle.ticket = some earlier →
        earlier = outcome := by
  obtain ⟨steps, hsteps, outcome, hfilled⟩ := settle_filled h htracks
  have hwait : router.wait request.handle =
      (outcome.result request.handle.id, router.settle request.handle) := by
    simp only [wait, hfilled]
  rw [hwait]
  refine ⟨outcome, outcome.tells_result request.handle.id, hfilled, ?_⟩
  intro earlier hearlier
  have hkept := h.outcome?_run hearlier steps
  rw [← hsteps, hfilled] at hkept
  exact (Option.some_inj.mp hkept).symm

end Router

namespace Traffic

variable {traffic : Traffic} {index : Nat} {call : WaitCall}

/-- A call that finds an outcome returns it at once. -/
theorem take?_look_filled (hcall : traffic.waits[index]? = some call)
    (hstage : call.stage = .looking) {outcome : Outcome}
    (hfilled : traffic.table.outcome? call.handle.ticket = some outcome) :
    ∃ next, traffic.take? (.look index) = some next ∧
      next.waits[index]? =
        some { call with stage := .returned (outcome.result call.handle.id) } := by
  have hlt := (List.getElem?_eq_some_iff.mp hcall).1
  simp only [take?, hcall, Option.bind_some, look, hstage, hfilled]
  exact ⟨_, rfl, List.getElem?_set_self hlt⟩

theorem take?_giveUp (hcall : traffic.waits[index]? = some call)
    (hstage : call.stage = .expiring) :
    ∃ next, traffic.take? (.giveUp index) = some next ∧
      next.table = traffic.table.expire call.handle.id call.handle.ticket := by
  simp only [take?, hcall, Option.bind_some, giveUp, hstage]
  exact ⟨_, rfl, rfl⟩

end Traffic

/-- After any steps in any order, the slot of a handle is empty exactly when the table holds an
entry for its number with its ticket; a filled slot never changes; and the end of the request by
number and ticket fills it, so that `wait` returns what was in the slot first. However the calls
of many threads are mixed, a call of `wait` ends its request at most once, finds an outcome with
its next look when it has done so, and returns what was written first. -/
theorem slot_filled_once_and_wait_ends :
    (∀ steps : List RouterStep, ∀ request ∈ ({} : RequestTable).made steps,
      let table := ({} : RequestTable).run steps
      let ticket := request.handle.ticket
      (table.outcome? ticket = none ↔
        ∃ entry, table.find? request.handle.id = some entry ∧ entry.handle.ticket = ticket) ∧
      (∀ outcome, table.outcome? ticket = some outcome →
        ∀ later, (table.run later).outcome? ticket = some outcome) ∧
      ((table.expire request.handle.id ticket).outcome? ticket).isSome ∧
      ∀ router : Router, router.table = table →
        ∃ outcome, outcome.Tells request.handle.id (router.wait request.handle).1 ∧
          (router.wait request.handle).2.table.outcome? ticket = some outcome ∧
          ∀ earlier, table.outcome? ticket = some earlier → earlier = outcome) ∧
    ∀ turns traffic, ({} : Traffic).play? turns = some traffic →
      traffic.table = ({} : RequestTable).run traffic.log ∧
      ∀ index call, traffic.waits[index]? = some call →
        Given traffic.log call.handle ∧ call.expiries ≤ 1 ∧
        (0 < call.expiries → (traffic.table.outcome? call.handle.ticket).isSome) ∧
        (call.stage = .expiring → ∃ next, traffic.take? (.giveUp index) = some next ∧
          (next.table.outcome? call.handle.ticket).isSome) ∧
        (call.stage = .looking → ∀ outcome result,
          traffic.table.outcome? call.handle.ticket = some outcome →
          outcome.Tells call.handle.id result →
          ∃ next, traffic.take? (.look index) = some next ∧
            next.waits[index]? = some { call with stage := .returned result }) ∧
        ∀ result, call.stage = .returned result →
          ∃ outcome, ({} : RequestTable).firstOutcome? call.handle.ticket traffic.log =
            some outcome ∧ outcome.Tells call.handle.id result := by
  constructor
  · intro steps request hmade
    have hsound := RequestTable.sound_run steps
    have htracks := RequestTable.Sound.empty.tracks_of_mem_made hmade
    refine ⟨?_, ?_, hsound.outcome?_expire_isSome htracks, ?_⟩
    · exact (hsound.outcome?_eq_none_iff htracks).trans (hsound.mem_pending_iff htracks)
    · exact fun outcome hfilled later => hsound.outcome?_run hfilled later
    · rintro router htable
      rw [← htable] at hsound htracks
      rw [← htable]
      exact Router.wait_returns_outcome hsound htracks
  · intro turns traffic hplay
    have hvalid := Traffic.Valid.empty.play? hplay
    refine ⟨hvalid.table, ?_⟩
    intro index call hcall
    have hwait := hvalid.waits call (List.mem_of_getElem? hcall)
    refine ⟨hwait.given, hwait.once, ?_, ?_, ?_, ?_⟩
    · rw [hvalid.table]
      exact hwait.filled
    · intro hstage
      obtain ⟨next, htake, htable⟩ := Traffic.take?_giveUp hcall hstage
      obtain ⟨request, heq, htracks⟩ := hwait.given.tracks
      refine ⟨next, htake, ?_⟩
      rw [htable, hvalid.table, ← heq]
      exact (RequestTable.sound_run traffic.log).outcome?_expire_isSome htracks
    · intro hstage outcome result hfilled htells
      rw [htells.eq_result]
      exact Traffic.take?_look_filled hcall hstage hfilled
    · intro result hstage
      rw [RequestTable.Sound.empty.firstOutcome?_eq]
      obtain ⟨outcome, hfilled, rfl⟩ := hwait.returned result hstage
      exact ⟨outcome, hfilled, outcome.tells_result call.handle.id⟩

/-- A request without a response: its call of `wait` looks too early, looks again after the
deadline, ends the request and returns. -/
theorem slot_filled_once_and_wait_ends_timeout :
    let steps : List RouterStep := [.beginIssue 7 .any 10]
    let turns : List Turn := [.issue ⟨7, [1], .any, 10⟩, .startSend 0, .endSend 0 (.ok ()),
      .wait ⟨7, 0, 10⟩, .look 0, .pass 10, .look 0, .giveUp 0, .look 0]
    ⟨⟨7, 0, 10⟩, .any⟩ ∈ ({} : RequestTable).made steps ∧
      (((({} : RequestTable).run steps).expire 7 0).outcome? 0).isSome ∧
      ∃ traffic call, ({} : Traffic).play? turns = some traffic ∧
        traffic.waits[0]? = some call ∧ call.stage = .returned (.error (.timeout 7)) ∧
        call.expiries ≤ 1 ∧
        ∃ outcome, ({} : RequestTable).firstOutcome? 0 traffic.log = some outcome ∧
          outcome.Tells 7 (.error (.timeout 7)) := by
  have hsteps := slot_filled_once_and_wait_ends.1 [.beginIssue 7 .any 10] ⟨⟨7, 0, 10⟩, .any⟩
    (by decide)
  have hturns := slot_filled_once_and_wait_ends.2 [.issue ⟨7, [1], .any, 10⟩, .startSend 0,
    .endSend 0 (.ok ()), .wait ⟨7, 0, 10⟩, .look 0, .pass 10, .look 0, .giveUp 0, .look 0] _ rfl
  refine ⟨by decide, hsteps.2.2.1, _, _, rfl, rfl, rfl, ?_, ?_⟩
  · exact (hturns.2 0 _ rfl).2.1
  · exact (hturns.2 0 _ rfl).2.2.2.2.2 _ rfl

end GroundLink
