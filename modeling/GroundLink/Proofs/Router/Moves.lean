import GroundLink.Proofs.Router.Traffic

/-! # What makes a turn possible

A turn can be taken only by a call that stands where the turn begins. For every turn that has been
taken this tells the call, its stage and the state that the turn has left behind.
-/

namespace GroundLink

open Link

namespace Traffic

/-- The turns that can be taken, and the states to which they lead. -/
inductive Moves (traffic : Traffic) : Turn → Traffic → Prop
  | allocate : Moves traffic .allocate (traffic.enter .allocate)
  | issue (request : CorrelatedRequest) : Moves traffic (.issue request) (traffic.issue request)
  | startSend {index : Nat} {call : IssueCall} (hcall : traffic.issues[index]? = some call)
      (hstage : call.stage = .entered) :
      Moves traffic (.startSend index)
        { traffic.setIssue index { call with stage := .sending } with
          sent := traffic.sent ++ [call.request.payload] }
  | sendOk {index : Nat} {call : IssueCall} (hcall : traffic.issues[index]? = some call)
      (hstage : call.stage = .sending) :
      Moves traffic (.endSend index (.ok ()))
        { traffic.setIssue index { call with stage := .returned (.ok call.handle) } with
          handles := traffic.handles ++ [call.handle] }
  | sendError {index : Nat} {call : IssueCall} (error : TransportError)
      (hcall : traffic.issues[index]? = some call) (hstage : call.stage = .sending) :
      Moves traffic (.endSend index (.error error))
        (traffic.setIssue index { call with stage := .broken error.message })
  | abandon {index : Nat} {call : IssueCall} {reason : String}
      (hcall : traffic.issues[index]? = some call) (hstage : call.stage = .broken reason) :
      Moves traffic (.abandon index)
        ((traffic.enter (.abandonIssue call.handle reason)).setIssue index
          { call with stage := .returned (.error (.transportUnavailable reason)) })
  | expect (id : CorrelationId) (filter : FrameFilter) (timeout : Nat) :
      Moves traffic (.expect id filter timeout) (traffic.expect id filter timeout)
  | wait {handle : Handle} (hgiven : handle ∈ traffic.handles) :
      Moves traffic (.wait handle) { traffic with waits := traffic.waits ++ [{ handle }] }
  /-- The slot is filled, and the call returns. -/
  | lookFilled {index : Nat} {call : WaitCall} {outcome : Outcome}
      (hcall : traffic.waits[index]? = some call) (hstage : call.stage = .looking)
      (hfilled : traffic.table.outcome? call.handle.ticket = some outcome) :
      Moves traffic (.look index)
        (traffic.setWait index { call with stage := .returned (outcome.result call.handle.id) })
  /-- The slot is empty after the deadline. -/
  | lookLate {index : Nat} {call : WaitCall} (hcall : traffic.waits[index]? = some call)
      (hstage : call.stage = .looking)
      (hempty : traffic.table.outcome? call.handle.ticket = none)
      (hdeadline : call.handle.deadline ≤ traffic.now) :
      Moves traffic (.look index) (traffic.setWait index { call with stage := .expiring })
  /-- The slot is empty, and there is still time. -/
  | lookEarly {index : Nat} {call : WaitCall} (hcall : traffic.waits[index]? = some call)
      (hstage : call.stage = .looking)
      (hempty : traffic.table.outcome? call.handle.ticket = none)
      (hdeadline : traffic.now < call.handle.deadline) :
      Moves traffic (.look index) traffic
  | giveUp {index : Nat} {call : WaitCall} (hcall : traffic.waits[index]? = some call)
      (hstage : call.stage = .expiring) :
      Moves traffic (.giveUp index)
        ((traffic.enter (.expire call.handle.id call.handle.ticket)).setWait index
          { call with stage := .looking, expiries := call.expiries + 1 })
  | deliver (frame : Frame) :
      Moves traffic (.deliver frame) (traffic.enter (.deliver traffic.now frame))
  | cancel {handle : Handle} (hgiven : handle ∈ traffic.handles) :
      Moves traffic (.cancel handle) (traffic.enter (.cancel handle))
  | cancelAll :
      Moves traffic .cancelAll
        { traffic.enter .cancelAll with stopping := traffic.stopping + 1 }
  | stopTimer (hcalled : 0 < traffic.stopping) :
      Moves traffic .stopTimer
        { traffic with timer := traffic.timer.stop, stopping := traffic.stopping - 1 }
  | close (reason : String) : Moves traffic (.close reason) (traffic.enter (.close reason))
  | countHeld : Moves traffic .countHeld (traffic.enter (.countHeld traffic.now))
  | pass (milliseconds : Nat) :
      Moves traffic (.pass milliseconds) { traffic with now := traffic.now + milliseconds }
  | fire {entry : TimerEntry Expiry} {timer : DeadlineTimer Expiry}
      (hidle : traffic.firing = none)
      (hpop : traffic.timer.pop? traffic.now = some (entry, timer)) :
      Moves traffic .fire { traffic with timer, firing := some entry.item }
  | callback {expiry : Expiry} (hcarried : traffic.firing = some expiry) :
      Moves traffic .callback
        { traffic.enter (.expire expiry.id expiry.ticket) with firing := none }

variable {traffic next : Traffic} {turn : Turn} {index : Nat}

theorem moves_startSend {call : IssueCall} (hcall : traffic.issues[index]? = some call)
    (hnext : traffic.startSend index call = some next) : traffic.Moves (.startSend index) next := by
  unfold Traffic.startSend at hnext
  split at hnext
  next hstage =>
    cases hnext
    exact .startSend hcall hstage
  next => cases hnext

theorem moves_endSend {call : IssueCall} {outcome : Except TransportError Unit}
    (hcall : traffic.issues[index]? = some call)
    (hnext : traffic.endSend index call outcome = some next) :
    traffic.Moves (.endSend index outcome) next := by
  unfold Traffic.endSend at hnext
  split at hnext
  next hstage =>
    cases hnext
    exact .sendOk hcall hstage
  next error hstage =>
    cases hnext
    exact .sendError error hcall hstage
  next => cases hnext

theorem moves_abandon {call : IssueCall} (hcall : traffic.issues[index]? = some call)
    (hnext : traffic.abandon index call = some next) : traffic.Moves (.abandon index) next := by
  unfold Traffic.abandon at hnext
  split at hnext
  next reason hstage =>
    cases hnext
    exact .abandon hcall hstage
  next => cases hnext

theorem moves_look {call : WaitCall} (hcall : traffic.waits[index]? = some call)
    (hnext : traffic.look index call = some next) : traffic.Moves (.look index) next := by
  unfold Traffic.look at hnext
  split at hnext
  next outcome hstage hfilled =>
    cases hnext
    exact .lookFilled hcall hstage hfilled
  next hstage hempty =>
    split at hnext
    next hdeadline =>
      cases hnext
      exact .lookLate hcall hstage hempty hdeadline
    next hdeadline =>
      cases hnext
      exact .lookEarly hcall hstage hempty (Nat.not_le.mp hdeadline)
  next => cases hnext

theorem moves_giveUp {call : WaitCall} (hcall : traffic.waits[index]? = some call)
    (hnext : traffic.giveUp index call = some next) : traffic.Moves (.giveUp index) next := by
  unfold Traffic.giveUp at hnext
  split at hnext
  next hstage =>
    cases hnext
    exact .giveUp hcall hstage
  next => cases hnext

/-- Whatever a turn has led to, it is one of these. -/
theorem moves (hnext : traffic.take? turn = some next) : traffic.Moves turn next := by
  cases turn with
  | allocate =>
      cases hnext
      exact .allocate
  | issue request =>
      cases hnext
      exact .issue request
  | startSend index =>
      obtain ⟨call, hcall, hnext⟩ := Option.bind_eq_some_iff.mp hnext
      exact moves_startSend hcall hnext
  | endSend index outcome =>
      obtain ⟨call, hcall, hnext⟩ := Option.bind_eq_some_iff.mp hnext
      exact moves_endSend hcall hnext
  | abandon index =>
      obtain ⟨call, hcall, hnext⟩ := Option.bind_eq_some_iff.mp hnext
      exact moves_abandon hcall hnext
  | expect id filter timeout =>
      cases hnext
      exact .expect id filter timeout
  | wait handle =>
      obtain ⟨hgiven, hnext⟩ := Option.ite_none_right_eq_some.mp hnext
      cases hnext
      exact .wait hgiven
  | look index =>
      obtain ⟨call, hcall, hnext⟩ := Option.bind_eq_some_iff.mp hnext
      exact moves_look hcall hnext
  | giveUp index =>
      obtain ⟨call, hcall, hnext⟩ := Option.bind_eq_some_iff.mp hnext
      exact moves_giveUp hcall hnext
  | deliver frame =>
      cases hnext
      exact .deliver frame
  | cancel handle =>
      obtain ⟨hgiven, hnext⟩ := Option.ite_none_right_eq_some.mp hnext
      cases hnext
      exact .cancel hgiven
  | cancelAll =>
      cases hnext
      exact .cancelAll
  | stopTimer =>
      obtain ⟨hcalled, hnext⟩ := Option.ite_none_right_eq_some.mp hnext
      cases hnext
      exact .stopTimer hcalled
  | close reason =>
      cases hnext
      exact .close reason
  | countHeld =>
      cases hnext
      exact .countHeld
  | pass milliseconds =>
      cases hnext
      exact .pass milliseconds
  | fire =>
      simp only [Traffic.take?, Traffic.fire] at hnext
      split at hnext
      next entry timer hidle hpop =>
        cases hnext
        exact .fire hidle hpop
      next => cases hnext
  | callback =>
      simp only [Traffic.take?, Traffic.callback] at hnext
      split at hnext
      next expiry hcarried =>
        cases hnext
        exact .callback hcarried
      next => cases hnext

end Traffic

end GroundLink
