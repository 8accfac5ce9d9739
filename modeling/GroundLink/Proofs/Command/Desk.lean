import GroundLink.Proofs.Command.Hearing
import GroundLink.Proofs.Router.Alone

/-! # Commands one after the other

Seen from the desk of those who command the satellite there is no table, no timer and no handle:
they count their commands, and remember what has happened on the link. From that they can tell what
each command will give, whatever was delivered before, under whatever number, and however often the
numbers have come round.
-/

namespace GroundLink.Command

open Link

/-- A command that waits for a response of the terminal, with any kind of result. -/
structure Call where
  {Result : Type}
  client : Client
  command : Telecommand Result
  terminal : command.filter = .apid .terminal
  arguments : Arguments
  data : Option Bytes
  timeout : Nat

/-- What a command has given. -/
structure Answer where
  {Result : Type}
  result : Except ClientError Result

/-- What happens next: a command, or something that no command is at work with. -/
inductive Move where
  | call (call : Call)
  /-- The link breaks or heals. -/
  | relink (transport : Transport)
  | sleep (milliseconds : Nat)

namespace Call

variable (call : Call)

def run (session : Session) : Except ClientError call.Result × Session :=
  call.client.run call.command call.arguments call.data call.timeout session

def line : Except FormatError String :=
  call.client.formatter.format call.command.template call.arguments

/-- The request for a line under a number. -/
def request (id : CorrelationId) (line : String) : CorrelatedRequest where
  id := id
  payload := (TerminalRequest.toUplink ⟨id, line, call.data⟩ call.client.securityCode).encode
  filter := call.command.filter
  timeout := call.timeout

/-- What the command gives when its own response comes: its payload is read if it tells of success,
and an error is passed on with its code. -/
def reply (line : String) (response : Response) : Except ClientError call.Result :=
  match response.kind.status with
  | .error code => .error (.remote line code)
  | .success =>
      match call.command.reading response.payload with
      | .ok result => .ok result
      | .error fault => .error (.unreadable line fault)

/-- What the command gives under a number if this event decides it. A response that is not of the
terminal, or has another number, decides nothing, nor does any other frame. -/
def verdict? (line : String) (id : CorrelationId) :
    LinkEvent → Option (Except ClientError call.Result)
  | .deliver (.response response) =>
      if response.id = id ∧ response.kind.apid = .terminal then some (call.reply line response)
      else none
  | .deliver _ => none
  | .close reason => some (.error (.router (.transportUnavailable reason)))
  | .cancelAll => some (.error (.router (.cancelled id)))

variable {call : Call}

theorem conclude_ok (line : String) (response : Response) :
    Client.conclude call.command.reading line (.ok response) = call.reply line response := by
  unfold Client.conclude reply
  dsimp only
  split
  next hsuccess =>
    rw [hsuccess]
    dsimp only
    cases call.command.reading response.payload <;> rfl
  next code herror => rw [herror]

theorem map_conclude_decides? (line : String) (id : CorrelationId) (event : LinkEvent) :
    (event.decides? id).map (fun outcome =>
      Client.conclude call.command.reading line (outcome.result id)) =
        call.verdict? line id event := by
  cases event with
  | deliver frame =>
      cases frame with
      | response response =>
          simp only [LinkEvent.decides?, verdict?, ← conclude_ok]
          exact apply_ite (Option.map _) _ _ _
      | _ => rfl
  | close reason => rfl
  | cancelAll => rfl

/-- A command gives what the first event makes of it that decides it. -/
theorem conclude_outcome (line : String) (id : CorrelationId) (events : List LinkEvent) :
    Client.conclude call.command.reading line ((LinkEvent.outcome id events).result id) =
      (events.findSome? (call.verdict? line id)).getD (.error (.router (.timeout id))) := by
  have hverdicts : call.verdict? line id =
      Option.map (fun outcome => Client.conclude call.command.reading line (outcome.result id)) ∘
        LinkEvent.decides? id :=
    funext fun event => (map_conclude_decides? line id event).symm
  unfold LinkEvent.outcome
  rw [hverdicts, ← List.map_findSome?]
  cases events.findSome? (LinkEvent.decides? id) <;> rfl

theorem run_of_error {error : FormatError} (h : call.line = .error error) (session : Session) :
    call.run session = (.error (.format error), session) :=
  Client.run_of_format_error h call.data call.timeout session

theorem run_of_line {line : String} (h : call.line = .ok line) (session : Session) :
    call.run session =
      let request := call.request session.router.allocateId.1 line
      (Client.conclude call.command.reading line (session.numbered.execute request).1,
        (session.numbered.execute request).2) :=
  Client.run_of_format h call.data call.timeout session

end Call

namespace Session

def take (session : Session) : Move → List Answer × Session
  | .call call =>
      let (result, session) := call.run session
      ([⟨result⟩], session)
  | .relink transport => ([], { session with router := { session.router with transport } })
  | .sleep milliseconds => ([], { session with router := session.router.sleep milliseconds })

/-- What commands give one after the other, and the session behind the last one. -/
def play (session : Session) : List Move → List Answer × Session
  | [] => ([], session)
  | move :: rest =>
      let (answers, session) := session.take move
      let (others, session) := session.play rest
      (answers ++ others, session)

end Session

/-- What is known at the desk. -/
structure Desk where
  /-- How many commands had lines that could be made. -/
  numbered : Nat := 0
  /-- The events that have happened while commands were sent, oldest first. -/
  played : List LinkEvent := []
  transport : Transport
  /-- What will happen during each of the next sends. -/
  script : List (CorrelationId → List LinkEvent)

namespace Desk

/-- What a command gives. A line that cannot be made costs nothing. Any other takes the next
number; it is refused if the link has been closed or torn down, or fails with the transport, or is
decided by the first event while it is sent that is about it, or else time runs out. -/
def call (desk : Desk) (call : Call) : Except ClientError call.Result × Desk :=
  match call.line with
  | .error error => (.error (.format error), desk)
  | .ok line =>
      let id := UInt8.ofNat desk.numbered
      let desk := { desk with numbered := desk.numbered + 1 }
      match refusal? desk.played id with
      | some error => (.error (.router error), desk)
      | none =>
          match desk.transport.send (call.request id line).payload with
          | (.error error, transport) =>
              (.error (.router (.transportUnavailable error.message)), { desk with transport })
          | (.ok (), transport) =>
              let events := Session.nextEvents desk.script id
              ((events.findSome? (call.verdict? line id)).getD (.error (.router (.timeout id))),
                { desk with
                  played := desk.played ++ events
                  transport
                  script := desk.script.tail })

def take (desk : Desk) : Move → List Answer × Desk
  | .call call =>
      let (result, desk) := desk.call call
      ([⟨result⟩], desk)
  | .relink transport => ([], { desk with transport })
  | .sleep _ => ([], desk)

def play (desk : Desk) : List Move → List Answer × Desk
  | [] => ([], desk)
  | move :: rest =>
      let (answers, desk) := desk.take move
      let (others, desk) := desk.play rest
      (answers ++ others, desk)

end Desk

/-- The desk knows what matters of a session. -/
structure Desk.Knows (desk : Desk) (session : Session) : Prop where
  stands : session.router.Stands [] desk.numbered desk.played
  transport : session.router.transport = desk.transport
  script : session.script = desk.script

namespace Desk.Knows

variable {desk : Desk} {session : Session}

theorem call (h : desk.Knows session) (call : Call) :
    (call.run session).1 = (desk.call call).1 ∧ (desk.call call).2.Knows (call.run session).2 := by
  unfold Desk.call
  cases hline : call.line with
  | error error =>
      rw [Call.run_of_error hline]
      exact ⟨rfl, h⟩
  | ok line =>
  obtain ⟨hid, hnumbered⟩ := h.stands.allocateId
  have htransport : session.numbered.router.transport = desk.transport := h.transport
  rw [Call.run_of_line hline, hid]
  dsimp only
  generalize UInt8.ofNat desk.numbered = id
  cases hrefusal : refusal? desk.played id with
  | some error =>
      have hissue := hnumbered.issue_refused (call.request id line) hrefusal
      rw [Session.execute_of_error hissue]
      exact ⟨rfl, hnumbered, h.transport, h.script⟩
  | none =>
  cases hsend : desk.transport.send (call.request id line).payload with
  | mk sent transport =>
  rw [← htransport] at hsend
  cases sent with
  | error error =>
      obtain ⟨router, hissue, hafter, hstands⟩ :=
        hnumbered.issue_failed (call.request id line) hrefusal hsend
      rw [Session.execute_of_error hissue]
      exact ⟨rfl, hstands, hafter, h.script⟩
  | ok _ =>
      obtain ⟨handle, router, hissue, hhandle, hafter, hstands⟩ :=
        hnumbered.issue_sent (call.request id line) hrefusal hsend
      have hfilter : (call.request id line).filter = .apid .terminal := call.terminal
      have hscript : Session.nextEvents session.numbered.script (call.request id line).id =
          Session.nextEvents desk.script id := by
        rw [← h.script]
        rfl
      rw [hfilter] at hstands
      obtain ⟨hresult, hlast⟩ := hstands.waitAfter (Session.nextEvents desk.script id)
      rw [Session.execute_of_ok hissue, hscript, hresult, hhandle]
      refine ⟨Call.conclude_outcome line id _, hlast, ?_, congrArg List.tail h.script⟩
      exact (router.transport_waitAfter _ _).trans hafter

theorem take (h : desk.Knows session) (move : Move) :
    (session.take move).1 = (desk.take move).1 ∧
      (desk.take move).2.Knows (session.take move).2 := by
  cases move with
  | call call =>
      obtain ⟨hresult, hknows⟩ := h.call call
      exact ⟨congrArg (fun result => [Answer.mk result]) hresult, hknows⟩
  | relink transport => exact ⟨rfl, h.stands.elsewhere rfl, rfl, h.script⟩
  | sleep milliseconds =>
      obtain ⟨now, timer, due, hsleep⟩ := session.router.sleep_eq milliseconds
      refine ⟨rfl, h.stands.sleep milliseconds, ?_, h.script⟩
      simp only [Session.take, Desk.take, hsleep, h.transport]

/-- What the desk foresees is what happens, however long it goes on. -/
theorem play (h : desk.Knows session) (moves : List Move) :
    (session.play moves).1 = (desk.play moves).1 ∧
      (desk.play moves).2.Knows (session.play moves).2 := by
  induction moves generalizing desk session with
  | nil => exact ⟨rfl, h⟩
  | cons move rest ih =>
      obtain ⟨hanswers, hknows⟩ := h.take move
      obtain ⟨hothers, hlast⟩ := ih hknows
      exact ⟨congrArg₂ (· ++ ·) hanswers hothers, hlast⟩

end Desk.Knows

/-- From a fresh router on, commands give what is foreseen at the desk, one after the other. The
same is sent, the counter has moved by one for each line that could be made, and nobody is left to
wait. So only a response of the terminal under its own number decides a command, or the end of the
link or teardown if they come first, or else the deadline; and nothing is left of earlier responses,
whatever their numbers. -/
theorem commands_give_what_is_foreseen {router : Router} (hfresh : router.table = {})
    (script : List (CorrelationId → List LinkEvent)) (moves : List Move) :
    let session : Session := ⟨router, script⟩
    let desk : Desk := { transport := router.transport, script }
    (session.play moves).1 = (desk.play moves).1 ∧
      (session.play moves).2.router.transport = (desk.play moves).2.transport ∧
      (session.play moves).2.router.table.nextId =
        UInt8.ofNat (desk.play moves).2.numbered ∧
      (session.play moves).2.router.table.pending = [] := by
  have hknows : Desk.Knows { transport := router.transport, script } ⟨router, script⟩ :=
    ⟨Router.stands_of_fresh hfresh, rfl, rfl⟩
  obtain ⟨hanswers, hlast⟩ := hknows.play moves
  exact ⟨hanswers, hlast.transport, hlast.stands.next, hlast.stands.pending⟩

/-- A command for examples. -/
def pingCall : Call := ⟨⟨1, {}, 5000⟩, .ping, rfl, ⟨[], []⟩, none, 5000⟩

/-- Four commands end with a result, with an error code, with the deadline and with a teardown. The
first one gets its response behind a response to the next number and a beacon, and the fourth one
gets its response too late; the fifth one is refused. On another link the end comes behind a
failure, and is left for the second command. -/
theorem commands_give_what_is_foreseen_each_way :
    let response (status : Status) (id : CorrelationId) (payload : Bytes) : LinkEvent :=
      .deliver (.response ⟨⟨.terminal, status⟩, id, payload⟩)
    let session : Session := ⟨{}, [
      fun id => [response .success (id + 1) [], .deliver (.beacon []),
        response .success id [111, 107]],
      fun id => [response (.error 5) id []], fun _ => [],
      fun id => [.cancelAll, response .success id []]]⟩
    let gone : Session := ⟨{}, [fun id => [response (.error 5) id [], .close "gone"]]⟩
    let ping (count : Nat) : List Move := List.replicate count (.call pingCall)
    (session.play (ping 5)).1 = [⟨(.ok "ok" : Except ClientError String)⟩,
        ⟨(.error (.remote "ping" 5) : Except ClientError String)⟩,
        ⟨(.error (.router (.timeout 2)) : Except ClientError String)⟩,
        ⟨(.error (.router (.cancelled 3)) : Except ClientError String)⟩,
        ⟨(.error (.router (.cancelled 4)) : Except ClientError String)⟩] ∧
      (session.play (ping 5)).2.router.table.nextId = 5 ∧
      (gone.play (ping 2)).1 = [⟨(.error (.remote "ping" 5) : Except ClientError String)⟩,
        ⟨(.error (.router (.transportUnavailable "gone")) : Except ClientError String)⟩] ∧
      (gone.play (ping 2)).2.router.table.nextId = 2 := by
  intro response session gone ping
  have hline : pingCall.line = .ok "ping" := Formatter.format_plain {} "ping" (by simp [isBrace])
  obtain ⟨hanswers, -, hnext, -⟩ :=
    @commands_give_what_is_foreseen session.router rfl session.script (ping 5)
  obtain ⟨hothers, -, hlast, -⟩ :=
    @commands_give_what_is_foreseen gone.router rfl gone.script (ping 2)
  rw [hanswers, hnext, hothers, hlast]
  simp only [ping, List.replicate, Desk.play, Desk.take, Desk.call, hline]
  exact ⟨rfl, by decide +kernel, rfl, by decide +kernel⟩

end GroundLink.Command
