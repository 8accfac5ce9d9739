import GroundLink.Command.Response
import GroundLink.Command.Template
import GroundLink.Router.Basic
import GroundLink.Uplink

/-! # Commanding the satellite

A client turns a telecommand into one request: it makes the command line, takes the next
number, sends line and data as a terminal request, and reads the response. Everything
that can go wrong on the way is told apart.
-/

namespace GroundLink.Command

/-- A command with the responses that answer it and the way to read them. -/
structure Telecommand (α : Type) where
  template : String
  reading : Reading α
  filter : FrameFilter := .apid .terminal

/-- Why a command has no result. -/
inductive ClientError where
  | format (error : FormatError)
  | router (error : RouterError)
  /-- The satellite answered with an error. -/
  | remote (line : String) (code : UInt8)
  | unreadable (line : String) (fault : ResponseFault)
  /-- The satellite did not start in time. -/
  | notStarted
  deriving Repr, DecidableEq

namespace ClientError

/-- An unreadable answer with everything that led to the failure, outermost first. -/
def chain (line : String) (fault : ResponseFault) : List String :=
  ("Response to " ++ Text.quoted line) :: fault.chain

/-- A text of several lines, where `first` opens the first line and `margin` the others. -/
def indent (first margin text : String) : String :=
  first ++ String.intercalate ("\n" ++ margin) ((Text.parts '\n' text.toList).map String.ofList)

/-- A list of causes under a heading; several causes are numbered. -/
def causes : List String → String
  | [] => ""
  | [only] => "\n\nCaused by:\n" ++ indent "    " "    " only
  | several =>
      "\n\nCaused by:\n" ++ "\n".intercalate
        (several.zipIdx.map fun (cause, number) =>
          indent ("    " ++ Numeral.decimal number ++ ": ") "       " cause)

def message : ClientError → String
  | format error => "Format: " ++ error.message
  | router error => "Router: " ++ error.message
  | remote line code =>
      "Remote: " ++ Text.quoted line ++ " failed with code " ++ Numeral.decimal code.toNat
  | unreadable line fault =>
      match chain line fault with
      | outermost :: rest => "Decode: " ++ outermost ++ causes rest
      | [] => "Decode: "
  | notStarted => "Timeout"

/-- Whether no response came in time. -/
def isTimeout : ClientError → Bool
  | router (.timeout _) => true
  | notStarted => true
  | _ => false

end ClientError

/-- A router, and what happens on its link during each of the next sends, once the number of
the request is known. When nothing is left, nothing happens. -/
structure Session where
  router : Router
  script : List (CorrelationId → List LinkEvent) := []

namespace Session

/-- Makes a request and waits for its outcome. Only a request that goes out takes its part of
the script. -/
def execute (session : Session) (request : CorrelatedRequest) :
    Except RouterError Response × Session :=
  match session.router.issue request with
  | (.error error, router) => (.error error, { session with router })
  | (.ok handle, router) =>
      let events := match session.script with
        | next :: _ => next request.id
        | [] => []
      let (result, router) := router.waitAfter events handle
      (result, ⟨router, session.script.tail⟩)

end Session

/-- The settings of one who commands the satellite. -/
structure Client where
  securityCode : UInt32
  formatter : Formatter := {}
  /-- How long a response may take, in milliseconds. -/
  timeout : Nat := 5000
  deriving Repr, DecidableEq

namespace Client

/-- The request that carries a command line. -/
def request (client : Client) (id : CorrelationId) (line : String) (data : Option Bytes)
    (filter : FrameFilter) (timeout : Nat) : CorrelatedRequest where
  id := id
  payload := (TerminalRequest.toUplink ⟨id, line, data⟩ client.securityCode).encode
  filter := filter
  timeout := timeout

/-- Makes the line of a command, and the request for it under the next number. A line that
cannot be made uses up no number. -/
def prepare {α : Type} (client : Client) (command : Telecommand α) (arguments : Arguments)
    (data : Option Bytes) (timeout : Nat) (router : Router) :
    Except ClientError (String × CorrelatedRequest) × Router :=
  match client.formatter.format command.template arguments with
  | .error error => (.error (.format error), router)
  | .ok line =>
      let (id, router) := router.allocateId
      (.ok (line, client.request id line data command.filter timeout), router)

/-- What the outcome of a request says about a command. -/
def conclude {α : Type} (reading : Reading α) (line : String) :
    Except RouterError Response → Except ClientError α
  | .error error => .error (.router error)
  | .ok response =>
      match response.kind.status with
      | .success => (reading response.payload).mapError (.unreadable line)
      | .error code => .error (.remote line code)

/-- Executes a command within a given time. -/
def run {α : Type} (client : Client) (command : Telecommand α) (arguments : Arguments)
    (data : Option Bytes) (timeout : Nat) (session : Session) : Except ClientError α × Session :=
  match client.prepare command arguments data timeout session.router with
  | (.error error, router) => (.error error, { session with router })
  | (.ok (line, request), router) =>
      let (outcome, session) := { session with router }.execute request
      (conclude command.reading line outcome, session)

/-- Executes a command, perhaps with a block of data behind the line. -/
def execute {α : Type} (client : Client) (command : Telecommand α) (arguments : Arguments)
    (data : Option Bytes) (session : Session) : Except ClientError α × Session :=
  client.run command arguments data client.timeout session

end Client

end GroundLink.Command
