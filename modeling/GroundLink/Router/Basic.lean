import GroundLink.Link.Transport
import GroundLink.Router.Table
import GroundLink.Timer

/-! # Routing responses to requests

The router joins the table of requests with the transport that sends them, a timer that
ends them at their deadlines, and observers for frames that no request waits for. Time
passes only where somebody waits.
-/

namespace GroundLink

open Link

/-- A request as the timer knows it. -/
structure Expiry where
  id : CorrelationId
  ticket : Nat
  deriving Repr, DecidableEq

/-- A request before it is made. -/
structure CorrelatedRequest where
  id : CorrelationId
  payload : Bytes
  filter : FrameFilter
  /-- How long the response may take, in milliseconds. -/
  timeout : Nat
  deriving Repr, DecidableEq

structure Router where
  table : RequestTable := {}
  timer : DeadlineTimer Expiry := {}
  transport : Transport := {}
  /-- The present time, in milliseconds. -/
  now : Nat := 0
  /-- The observers of frames that nobody waits for. Each but the last sees one frame and makes
  way for the next. -/
  observers : List String := []
  /-- What the observers have seen, oldest first. -/
  observed : List (String × Frame) := []
  deriving Repr, DecidableEq

namespace Router

def pendingCount (router : Router) : Nat := router.table.pending.length

def heldCount (router : Router) : Nat := (router.table.prune router.now).held.length

/-- From now on frames that nobody waits for are shown to these observers. -/
def observe (router : Router) (observers : List String) : Router := { router with observers }

/-- Shows a frame to the present observer. -/
def report (router : Router) (frame : Frame) : Router :=
  match router.observers with
  | [] => router
  | [last] => { router with observed := router.observed ++ [(last, frame)] }
  | first :: rest =>
      { router with observers := rest, observed := router.observed ++ [(first, frame)] }

def allocateId (router : Router) : CorrelationId × Router :=
  let (id, table) := router.table.allocateId
  (id, { router with table })

/-- Ends the requests whose deadlines have come. -/
def expireDue (router : Router) : Router :=
  match hpop : router.timer.pop? router.now with
  | none => router
  | some (entry, timer) =>
      have := DeadlineTimer.pop?_length hpop
      expireDue { router with timer, table := router.table.expire entry.item.id entry.item.ticket }
termination_by router.timer.queue.length

/-- Lets time pass up to an instant. -/
def waitUntil (router : Router) (instant : Nat) : Router :=
  { router with now := max router.now instant }.expireDue

/-- Lets time pass. -/
def sleep (router : Router) (milliseconds : Nat) : Router :=
  router.waitUntil (router.now + milliseconds)

/-- Has the timer end the request at its deadline. -/
def schedule (router : Router) (handle : Handle) : Router :=
  { router with timer := router.timer.schedule handle.deadline ⟨handle.id, handle.ticket⟩ }

/-- Enters a request before it is sent. -/
def register (router : Router) (request : CorrelatedRequest) :
    Except RouterError Handle × Router :=
  match router.table.beginIssue request.id request.filter (router.now + request.timeout) with
  | (.ok handle, table) => (.ok handle, { router with table }.schedule handle)
  | (.error error, table) => (.error error, { router with table })

/-- Sends the payload of a request that has been entered. If that fails, so does the request. -/
def transmit (router : Router) (handle : Handle) (payload : Bytes) :
    Except RouterError Unit × Router :=
  match router.transport.send payload with
  | (.ok (), transport) => (.ok (), { router with transport })
  | (.error error, transport) =>
      (.error (.transportUnavailable error.message),
        { router with transport, table := router.table.abandonIssue handle error.message })

/-- Enters a request and sends its payload once. -/
def issue (router : Router) (request : CorrelatedRequest) :
    Except RouterError Handle × Router :=
  match router.register request with
  | (.error error, router) => (.error error, router)
  | (.ok handle, router) =>
      match router.transmit handle request.payload with
      | (.ok (), router) => (.ok handle, router)
      | (.error error, router) => (.error error, router)

/-- Waits for another response to a number without sending anything. -/
def expect (router : Router) (id : CorrelationId) (filter : FrameFilter) (timeout : Nat) :
    Except RouterError Handle × Router :=
  match router.table.expect id filter router.now timeout with
  | (.ok handle, table) =>
      let router := { router with table }
      if (table.outcome? handle.ticket).isSome then (.ok handle, router)
      else (.ok handle, router.schedule handle)
  | (.error error, table) => (.error error, { router with table })

def isResolved (router : Router) (handle : Handle) : Bool :=
  (router.table.outcome? handle.ticket).isSome

/-- Waits until the deadline of a request that has not ended. -/
def settle (router : Router) (handle : Handle) : Router :=
  if router.isResolved handle then router
  else
    let router := router.waitUntil handle.deadline
    { router with table := router.table.expire handle.id handle.ticket }

/-- Waits for the outcome of a request. -/
def wait (router : Router) (handle : Handle) : Except RouterError Response × Router :=
  let router := router.settle handle
  match router.table.outcome? handle.ticket with
  | some outcome => (outcome.result handle.id, router)
  | none => (.error (.timeout handle.id), router)

/-- Routes a frame from the satellite. -/
def deliver (router : Router) (frame : Frame) : Router :=
  match router.table.deliver router.now frame with
  | (.unsolicited, table) => { router with table }.report frame
  | (_, table) => { router with table }

def cancel (router : Router) (handle : Handle) : Router :=
  { router with table := router.table.cancel handle }

def cancelAll (router : Router) : Router :=
  { router with table := router.table.cancelAll, timer := router.timer.stop }

def close (router : Router) (reason : String) : Router :=
  { router with table := router.table.close reason }

end Router

/-- What may happen on the link while a request is being sent. -/
inductive LinkEvent where
  | deliver (frame : Frame)
  | close (reason : String)
  | cancelAll
  deriving Repr, DecidableEq

namespace Router

def apply (router : Router) : LinkEvent → Router
  | .deliver frame => router.deliver frame
  | .close reason => router.close reason
  | .cancelAll => router.cancelAll

/-- Waits for the outcome of a request after events that happened while it was sent. -/
def waitAfter (router : Router) (events : List LinkEvent) (handle : Handle) :
    Except RouterError Response × Router :=
  (events.foldl apply router).wait handle

/-- Makes a request and waits for its outcome. -/
def execute (router : Router) (request : CorrelatedRequest) :
    Except RouterError Response × Router :=
  match router.issue request with
  | (.error error, router) => (.error error, router)
  | (.ok handle, router) => router.wait handle

end Router

end GroundLink
