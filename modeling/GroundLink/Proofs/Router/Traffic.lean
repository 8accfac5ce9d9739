import GroundLink.Proofs.Router.Slots
import GroundLink.Router.Basic

/-! # Calls from many threads

Any number of threads call the router at the same time. A call is cut into the turns between
which other threads may get on: `issue` enters its request, sends without holding a lock, and
ends the request if the send fails; `wait` looks at its slot until something is in it, and ends
its request itself when it finds nothing after the deadline; the timer thread takes an entry out
and then hands it to the router. How a send ends is left open, and so is the clock.
-/

namespace GroundLink

open Link

/-- Where a call of `issue` stands whose request has been entered. -/
inductive IssueStage where
  | entered
  | sending
  /-- The send has failed, and the request is still to be ended. -/
  | broken (reason : String)
  | returned (result : Except RouterError Handle)

structure IssueCall where
  request : CorrelatedRequest
  handle : Handle
  /-- How many steps the router had taken when the request was entered. -/
  since : Nat
  stage : IssueStage := .entered

namespace IssueCall

def pending (call : IssueCall) : Pending := ⟨call.handle, call.request.filter⟩

end IssueCall

/-- Where a call of `wait` stands. -/
inductive WaitStage where
  /-- About to look at the slot, or asleep until the next look. -/
  | looking
  /-- Nothing was in the slot after the deadline, and the request is to be ended. -/
  | expiring
  | returned (result : Except RouterError Response)

structure WaitCall where
  handle : Handle
  stage : WaitStage := .looking
  /-- How often the call has ended its request. -/
  expiries : Nat := 0

/-- The router with all the calls that have been made of it. -/
structure Traffic where
  table : RequestTable := {}
  timer : DeadlineTimer Expiry := {}
  now : Nat := 0
  /-- What the timer thread has taken out and not yet handed to the router. -/
  firing : Option Expiry := none
  /-- How many teardowns have yet to stop the timer. -/
  stopping : Nat := 0
  /-- The handles that have been returned to callers. -/
  handles : List Handle := []
  issues : List IssueCall := []
  waits : List WaitCall := []
  /-- The payloads given to the transport, oldest first. -/
  sent : List Bytes := []
  /-- The steps that the router has taken, oldest first. -/
  log : List RouterStep := []

/-- One thread gets on by one undivided turn, or time passes. -/
inductive Turn where
  | allocate
  | issue (request : CorrelatedRequest)
  | startSend (call : Nat)
  | endSend (call : Nat) (outcome : Except TransportError Unit)
  | abandon (call : Nat)
  | expect (id : CorrelationId) (filter : FrameFilter) (timeout : Nat)
  | wait (handle : Handle)
  | look (call : Nat)
  | giveUp (call : Nat)
  | deliver (frame : Frame)
  | cancel (handle : Handle)
  | cancelAll
  | stopTimer
  | close (reason : String)
  | countHeld
  | pass (milliseconds : Nat)
  | fire
  | callback

namespace Traffic

/-- The router takes a step. -/
def enter (traffic : Traffic) (step : RouterStep) : Traffic :=
  { traffic with table := traffic.table.apply step, log := traffic.log ++ [step] }

def schedule (traffic : Traffic) (handle : Handle) : Traffic :=
  { traffic with
    timer := traffic.timer.schedule handle.deadline ⟨handle.id, handle.ticket⟩ }

def setIssue (traffic : Traffic) (index : Nat) (call : IssueCall) : Traffic :=
  { traffic with issues := traffic.issues.set index call }

def setWait (traffic : Traffic) (index : Nat) (call : WaitCall) : Traffic :=
  { traffic with waits := traffic.waits.set index call }

/-- A request that is refused ends its call; an entered one is still to be sent. -/
def issue (traffic : Traffic) (request : CorrelatedRequest) : Traffic :=
  let step := .beginIssue request.id request.filter (traffic.now + request.timeout)
  match traffic.table.made? step with
  | none => traffic.enter step
  | some made =>
      { (traffic.enter step).schedule made.handle with
        issues := traffic.issues ++ [⟨request, made.handle, traffic.log.length, .entered⟩] }

/-- The send of an entered request begins. -/
def startSend (traffic : Traffic) (index : Nat) (call : IssueCall) : Option Traffic :=
  match call.stage with
  | .entered =>
      some { traffic.setIssue index { call with stage := .sending } with
        sent := traffic.sent ++ [call.request.payload] }
  | _ => none

/-- The send of a request ends one way or the other. -/
def endSend (traffic : Traffic) (index : Nat) (call : IssueCall)
    (outcome : Except TransportError Unit) : Option Traffic :=
  match call.stage, outcome with
  | .sending, .ok () =>
      some { traffic.setIssue index { call with stage := .returned (.ok call.handle) } with
        handles := traffic.handles ++ [call.handle] }
  | .sending, .error error =>
      some (traffic.setIssue index { call with stage := .broken error.message })
  | _, _ => none

/-- A request that could not be sent is ended. -/
def abandon (traffic : Traffic) (index : Nat) (call : IssueCall) : Option Traffic :=
  match call.stage with
  | .broken reason =>
      let result := .error (.transportUnavailable reason)
      some ((traffic.enter (.abandonIssue call.handle reason)).setIssue index
        { call with stage := .returned result })
  | _ => none

/-- A handle that is still empty is watched by the timer. -/
def expect (traffic : Traffic) (id : CorrelationId) (filter : FrameFilter) (timeout : Nat) :
    Traffic :=
  let step := .expect id filter traffic.now timeout
  let next := traffic.enter step
  match traffic.table.made? step with
  | none => next
  | some made =>
      let handles := traffic.handles ++ [made.handle]
      if (next.table.outcome? made.handle.ticket).isSome then { next with handles }
      else { next.schedule made.handle with handles }

/-- A waiting call looks at its slot. -/
def look (traffic : Traffic) (index : Nat) (call : WaitCall) : Option Traffic :=
  match call.stage, traffic.table.outcome? call.handle.ticket with
  | .looking, some outcome =>
      some (traffic.setWait index
        { call with stage := .returned (outcome.result call.handle.id) })
  | .looking, none =>
      if call.handle.deadline ≤ traffic.now then
        some (traffic.setWait index { call with stage := .expiring })
      else some traffic
  | _, _ => none

/-- A waiting call ends its request. -/
def giveUp (traffic : Traffic) (index : Nat) (call : WaitCall) : Option Traffic :=
  match call.stage with
  | .expiring =>
      some ((traffic.enter (.expire call.handle.id call.handle.ticket)).setWait index
        { call with stage := .looking, expiries := call.expiries + 1 })
  | _ => none

/-- The timer thread takes the next entry out when its deadline has come. -/
def fire (traffic : Traffic) : Option Traffic :=
  match traffic.firing, traffic.timer.pop? traffic.now with
  | none, some (entry, timer) => some { traffic with timer, firing := some entry.item }
  | _, _ => none

def callback (traffic : Traffic) : Option Traffic :=
  match traffic.firing with
  | some expiry => some { traffic.enter (.expire expiry.id expiry.ticket) with firing := none }
  | none => none

/-- The state after a turn, or `none` where nobody can take it. -/
def take? (traffic : Traffic) : Turn → Option Traffic
  | .allocate => some (traffic.enter .allocate)
  | .issue request => some (traffic.issue request)
  | .startSend index => traffic.issues[index]?.bind fun call => traffic.startSend index call
  | .endSend index outcome =>
      traffic.issues[index]?.bind fun call => traffic.endSend index call outcome
  | .abandon index => traffic.issues[index]?.bind fun call => traffic.abandon index call
  | .expect id filter timeout => some (traffic.expect id filter timeout)
  | .wait handle =>
      if handle ∈ traffic.handles then
        some { traffic with waits := traffic.waits ++ [{ handle }] }
      else none
  | .look index => traffic.waits[index]?.bind fun call => traffic.look index call
  | .giveUp index => traffic.waits[index]?.bind fun call => traffic.giveUp index call
  | .deliver frame => some (traffic.enter (.deliver traffic.now frame))
  | .cancel handle =>
      if handle ∈ traffic.handles then some (traffic.enter (.cancel handle)) else none
  | .cancelAll => some { traffic.enter .cancelAll with stopping := traffic.stopping + 1 }
  | .stopTimer =>
      if 0 < traffic.stopping then
        some { traffic with timer := traffic.timer.stop, stopping := traffic.stopping - 1 }
      else none
  | .close reason => some (traffic.enter (.close reason))
  | .countHeld => some (traffic.enter (.countHeld traffic.now))
  | .pass milliseconds => some { traffic with now := traffic.now + milliseconds }
  | .fire => traffic.fire
  | .callback => traffic.callback

/-- The state after some turns in the order given. -/
def play? (traffic : Traffic) : List Turn → Option Traffic
  | [] => some traffic
  | turn :: rest => (traffic.take? turn).bind fun next => next.play? rest

end Traffic

end GroundLink
