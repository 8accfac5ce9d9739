import GroundLink.Downlink
import GroundLink.Text.Numeral

/-! # Pending requests

The table holds the requests that wait for a response, one for each number, and the
responses kept back because the request of their number did not want them. Every handle
ever given out has a slot for its outcome, which is filled exactly when the handle
leaves the table and never changes afterwards. Each operation below is one undivided
step.
-/

namespace GroundLink

/-- Why a request got no response, or could not be made. -/
inductive RouterError where
  | duplicateId (id : CorrelationId)
  | transportUnavailable (reason : String)
  | timeout (id : CorrelationId)
  | cancelled (id : CorrelationId)
  deriving Repr, DecidableEq

namespace RouterError

def message : RouterError → String
  | duplicateId id => "correlation id " ++ Numeral.decimal id.toNat ++ " is already pending"
  | transportUnavailable reason => "transport unavailable: " ++ reason
  | timeout id => "request " ++ Numeral.decimal id.toNat ++ " timed out"
  | cancelled id => "request " ++ Numeral.decimal id.toNat ++ " was cancelled"

end RouterError

/-- How a request ended. -/
inductive Outcome where
  | fulfilled (response : Response)
  | timedOut
  | cancelled
  | failed (reason : String)
  deriving Repr, DecidableEq

namespace Outcome

/-- What the one who waits for the request is told. -/
def result (id : CorrelationId) : Outcome → Except RouterError Response
  | fulfilled response => .ok response
  | timedOut => .error (.timeout id)
  | cancelled => .error (.cancelled id)
  | failed reason => .error (.transportUnavailable reason)

end Outcome

/-- A reference to a request. The ticket is its own for ever; numbers are used again. -/
structure Handle where
  id : CorrelationId
  ticket : Nat
  deadline : Nat
  deriving Repr, DecidableEq

/-- A request that waits for a response. -/
structure Pending where
  handle : Handle
  filter : FrameFilter
  deriving Repr, DecidableEq

/-- What becomes of a frame that is delivered. -/
inductive Fate where
  /-- It is the response to the request of this ticket. -/
  | fulfils (ticket : Nat)
  /-- It is kept back, because the request of its number does not want it. -/
  | held
  /-- No request of its number waits, or it is no response at all. -/
  | unsolicited
  deriving Repr, DecidableEq

/-- The most responses that are kept back. -/
def maxHeld : Nat := 64

/-- How long a response is kept back, in milliseconds. -/
def heldLifetime : Nat := 30000

/-- A response kept back, and the time at which it came. -/
structure HeldResponse where
  received : Nat
  response : Response
  deriving Repr, DecidableEq

namespace HeldResponse

def isFresh (kept : HeldResponse) (now : Nat) : Bool := decide (now - kept.received < heldLifetime)

/-- Whether the response answers a request of this number and filter. -/
def answers (kept : HeldResponse) (id : CorrelationId) (filter : FrameFilter) : Bool :=
  kept.response.id == id && filter.accepts kept.response.kind

end HeldResponse

structure RequestTable where
  pending : List Pending := []
  /-- The responses kept back, oldest first. -/
  held : List HeldResponse := []
  nextId : CorrelationId := 0
  /-- The outcomes of all handles by ticket. -/
  slots : List (Option Outcome) := []
  shutDown : Bool := false
  /-- Why the link is gone, once it is. -/
  closed : Option String := none
  deriving Repr, DecidableEq

namespace RequestTable

/-- The request of a number that waits. -/
def find? (table : RequestTable) (id : CorrelationId) : Option Pending :=
  table.pending.find? fun request => request.handle.id == id

def isPending (table : RequestTable) (id : CorrelationId) : Bool := (table.find? id).isSome

/-- The outcome of a handle, or `none` while it waits. -/
def outcome? (table : RequestTable) (ticket : Nat) : Option Outcome :=
  (table.slots[ticket]?).join

/-- Fills the slot of a ticket, unless that has happened before. -/
def complete (table : RequestTable) (ticket : Nat) (outcome : Outcome) : RequestTable :=
  match table.slots[ticket]? with
  | some none => { table with slots := table.slots.set ticket (some outcome) }
  | _ => table

/-- Takes a request out of the table. -/
def remove (table : RequestTable) (ticket : Nat) : RequestTable :=
  { table with pending := table.pending.filter fun request => request.handle.ticket != ticket }

/-- Ends a request, if it still waits. A number that has been used again does not count. -/
def resolve (table : RequestTable) (id : CorrelationId) (ticket : Nat) (outcome : Outcome) :
    RequestTable :=
  match table.find? id with
  | some request =>
      if request.handle.ticket = ticket then (table.remove ticket).complete ticket outcome
      else table
  | none => table

/-- Ends all requests alike. -/
def resolveAll (table : RequestTable) (outcome : Outcome) : RequestTable :=
  table.pending.foldl (fun table request => table.complete request.handle.ticket outcome)
    { table with pending := [] }

/-- The first number from `next` on that is not taken, and the number behind it; after as many
tries as there are numbers the last one tried. -/
def searchId (taken : CorrelationId → Bool) : Nat → CorrelationId → CorrelationId × CorrelationId
  | 0, next => (next - 1, next)
  | tries + 1, next =>
      if taken next then searchId taken tries (next + 1) else (next, next + 1)

/-- The next number that no request waits with. -/
def allocateId (table : RequestTable) : CorrelationId × RequestTable :=
  let (id, next) := searchId table.isPending 256 table.nextId
  (id, { table with nextId := next })

/-- Refuses requests after teardown, and after the link is gone. -/
def ensureOpen (table : RequestTable) (id : CorrelationId) : Except RouterError Unit :=
  if table.shutDown then .error (.cancelled id)
  else
    match table.closed with
    | some reason => .error (.transportUnavailable reason)
    | none => .ok ()

/-- Gives out a handle whose slot holds `outcome`. -/
def newHandle (table : RequestTable) (id : CorrelationId) (deadline : Nat)
    (outcome : Option Outcome) : Handle × RequestTable :=
  (⟨id, table.slots.length, deadline⟩, { table with slots := table.slots ++ [outcome] })

/-- Enters a request, unless its number is taken. -/
def register (table : RequestTable) (id : CorrelationId) (filter : FrameFilter)
    (deadline : Nat) : Except RouterError Handle × RequestTable :=
  if table.isPending id then (.error (.duplicateId id), table)
  else
    let (handle, table) := table.newHandle id deadline none
    (.ok handle, { table with pending := table.pending ++ [⟨handle, filter⟩] })

/-- Without the responses kept back for a number. -/
def dropHeld (table : RequestTable) (id : CorrelationId) : RequestTable :=
  { table with held := table.held.filter fun kept => kept.response.id != id }

/-- Without the responses kept back for too long. -/
def prune (table : RequestTable) (now : Nat) : RequestTable :=
  { table with held := table.held.filter fun kept => kept.isFresh now }

/-- The first step of a request that is about to be sent: responses kept back for an earlier
request of its number are of no use any more. -/
def beginIssue (table : RequestTable) (id : CorrelationId) (filter : FrameFilter)
    (deadline : Nat) : Except RouterError Handle × RequestTable :=
  match table.ensureOpen id with
  | .error error => (.error error, table)
  | .ok () => (table.dropHeld id).register id filter deadline

/-- The last step of a request that could not be sent. -/
def abandonIssue (table : RequestTable) (handle : Handle) (reason : String) : RequestTable :=
  table.resolve handle.id handle.ticket (.failed reason)

/-- Enters a request for another response without sending anything. The oldest response kept
back that answers it serves it at once. -/
def expect (table : RequestTable) (id : CorrelationId) (filter : FrameFilter)
    (now timeout : Nat) : Except RouterError Handle × RequestTable :=
  if table.shutDown then (.error (.cancelled id), table)
  else if table.isPending id then (.error (.duplicateId id), table)
  else
    let table := table.prune now
    match table.held.find? fun kept => kept.answers id filter with
    | some kept =>
        let (handle, table) :=
          table.newHandle id (now + timeout) (some (.fulfilled kept.response))
        (.ok handle, { table with held := table.held.eraseP fun kept => kept.answers id filter })
    | none =>
        match table.ensureOpen id with
        | .error error => (.error error, table)
        | .ok () => table.register id filter (now + timeout)

/-- Keeps a response back. The oldest one gives way when there are too many. -/
def hold (table : RequestTable) (now : Nat) (response : Response) : RequestTable :=
  let table := table.prune now
  let kept := if table.held.length ≥ maxHeld then table.held.tail else table.held
  { table with held := kept ++ [⟨now, response⟩] }

/-- Hands a frame to the request that waits for it. -/
def deliver (table : RequestTable) (now : Nat) (frame : Frame) : Fate × RequestTable :=
  match frame with
  | .response response =>
      match table.find? response.id with
      | none => (.unsolicited, table)
      | some request =>
          let ticket := request.handle.ticket
          if request.filter.accepts response.kind then
            (.fulfils ticket, (table.remove ticket).complete ticket (.fulfilled response))
          else (.held, table.hold now response)
  | _ => (.unsolicited, table)

/-- Ends a request whose deadline has passed. -/
def expire (table : RequestTable) (id : CorrelationId) (ticket : Nat) : RequestTable :=
  table.resolve id ticket .timedOut

/-- Ends a request that nobody wants any more. -/
def cancel (table : RequestTable) (handle : Handle) : RequestTable :=
  table.resolve handle.id handle.ticket .cancelled

/-- Teardown: ends all requests and refuses new ones. -/
def cancelAll (table : RequestTable) : RequestTable :=
  { table with shutDown := true, held := [] }.resolveAll .cancelled

/-- The link is gone: all requests fail, and new ones are refused. Only the first reason
counts. -/
def close (table : RequestTable) (reason : String) : RequestTable :=
  match table.closed with
  | some _ => table
  | none => { table.resolveAll (.failed reason) with closed := some reason }

end RequestTable

end GroundLink
