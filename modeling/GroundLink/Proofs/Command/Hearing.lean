import GroundLink.Command.Catalogue
import GroundLink.Proofs.Command.Template
import GroundLink.Proofs.Link.Packet
import GroundLink.Proofs.Link.Sending
import GroundLink.Proofs.Router.Operations
import GroundLink.Proofs.Uplink

/-! # What the satellite hears

A telecommand sends nothing or one packet. The packet can always be read, and tells the security
code and the number that was taken for it. It tells the line and the data as well, unless a zero
character got into the line with the template or with an argument: the satellite then takes what
follows it for data.
-/

namespace GroundLink.Command

open Link

/-- A request goes out: the router enters it, and the transport takes its payload. -/
structure Session.Sends (session : Session) (request : CorrelatedRequest) : Prop where
  entered : ∃ handle, (session.router.register request).1 = .ok handle
  takes : session.router.transport.Takes request.payload

namespace Session

variable {session : Session} {request : CorrelatedRequest}

/-- The session after a number has been taken. -/
def numbered (session : Session) : Session :=
  { session with router := session.router.allocateId.2 }

/-- What will happen during the next send, under a number. -/
def nextEvents (script : List (CorrelationId → List LinkEvent)) (id : CorrelationId) :
    List LinkEvent :=
  match script with
  | next :: _ => next id
  | [] => []

theorem execute_of_error {error : RouterError} {router : Router}
    (h : session.router.issue request = (.error error, router)) :
    session.execute request = (.error error, { session with router }) := by
  simp only [execute, h]

theorem execute_of_ok {handle : Handle} {router : Router}
    (h : session.router.issue request = (.ok handle, router)) :
    session.execute request =
      ((router.waitAfter (nextEvents session.script request.id) handle).1,
        ⟨(router.waitAfter (nextEvents session.script request.id) handle).2,
          session.script.tail⟩) := by
  simp only [execute, h]
  rfl

/-- Neither the events during the send nor waiting reach the transport. -/
theorem transport_execute (session : Session) (request : CorrelatedRequest) :
    (session.execute request).2.router.transport =
      (session.router.issue request).2.transport := by
  cases hissue : session.router.issue request with
  | mk result router =>
  cases result with
  | error error => rw [execute_of_error hissue]
  | ok handle =>
      rw [execute_of_ok hissue]
      exact router.transport_waitAfter _ _

theorem written_execute (h : session.Sends request) :
    (session.execute request).2.router.transport.written =
      session.router.transport.written ++ Packet.bytes ⟨request.payload⟩ := by
  obtain ⟨handle, hentered⟩ := h.entered
  rw [transport_execute, Router.transport_issue, hentered]
  exact Transport.written_send_of_takes h.takes

theorem transport_execute_of_not_sends (h : ¬ session.Sends request) :
    (session.execute request).2.router.transport = session.router.transport := by
  rw [transport_execute, Router.transport_issue]
  split
  next handle hentered =>
    exact Transport.send_of_not_takes fun htakes => h ⟨⟨handle, hentered⟩, htakes⟩
  next => rfl

end Session

namespace Client

variable {α : Type} {client : Client} {command : Telecommand α} {arguments : Arguments}

/-- A line that cannot be made changes nothing. -/
theorem run_of_format_error {error : FormatError}
    (h : client.formatter.format command.template arguments = .error error) (data : Option Bytes)
    (timeout : Nat) (session : Session) :
    client.run command arguments data timeout session = (.error (.format error), session) := by
  simp only [run, prepare, h]

/-- A line is sent under the next number, and what comes back is read. -/
theorem run_of_format {line : String}
    (h : client.formatter.format command.template arguments = .ok line) (data : Option Bytes)
    (timeout : Nat) (session : Session) :
    client.run command arguments data timeout session =
      let request := client.request session.router.allocateId.1 line data command.filter timeout
      (conclude command.reading line (session.numbered.execute request).1,
        (session.numbered.execute request).2) := by
  simp only [run, prepare, h, Session.numbered]

end Client

/-- A telecommand sends one packet or nothing. It sends the packet exactly if its line can be made,
its request is entered and the transport takes the payload. The packet can be read down to a
terminal request with the number and the security code of the sender. This is the request that was
meant exactly if the line holds no zero character, which it gets from nowhere but the template and
the arguments; otherwise the line ends there, and the rest of it goes in front of the data. -/
theorem command_is_heard_as_meant_iff {α : Type} (client : Client) (command : Telecommand α)
    (arguments : Arguments) (data : Option Bytes) (timeout : Nat) (session : Session) :
    let id := session.router.allocateId.1
    let after := (client.run command arguments data timeout session).2
    ∃ sent, after.router.transport.written = session.router.transport.written ++ sent ∧
      (sent ≠ [] ↔ ∃ line, client.formatter.format command.template arguments = .ok line ∧
        session.numbered.Sends
          (client.request id line data command.filter timeout)) ∧
      (sent ≠ [] → ∃ line packet uplink heard,
        client.formatter.format command.template arguments = .ok line ∧
        sent = packet.bytes ∧ Packet.ofBytes sent = .ok packet ∧
        Uplink.decode packet.data = .ok uplink ∧ uplink.securityCode = client.securityCode ∧
        TerminalRequest.ofUplink uplink = .ok heard ∧
        (heard = ⟨id, line, data⟩ ↔ '\x00' ∉ line.toList) ∧
        (∀ before after, line = before ++ "\x00" ++ after → '\x00' ∉ before.toList →
          heard = ⟨id, before, some (Utf8.encode after ++ TerminalRequest.block data)⟩) ∧
        ('\x00' ∉ command.template.toList →
          (∀ value ∈ arguments.values, '\x00' ∉ value.toList) → heard = ⟨id, line, data⟩)) := by
  dsimp only
  cases hformat : client.formatter.format command.template arguments with
  | error error =>
      rw [Client.run_of_format_error hformat]
      refine ⟨[], (List.append_nil _).symm, iff_of_false (not_not_intro rfl) ?_,
        fun h => absurd rfl h⟩
      rintro ⟨line, hline, -⟩
      cases hline
  | ok line =>
      rw [Client.run_of_format hformat]
      dsimp only
      by_cases hsends : session.numbered.Sends
        (client.request session.router.allocateId.1 line data command.filter timeout)
      · have hmax := hsends.takes.fits
        refine ⟨_, Session.written_execute hsends, iff_of_true nofun ⟨line, rfl, hsends⟩, ?_⟩
        intro _
        obtain ⟨heard, hheard, hsame, hzero⟩ := TerminalRequest.exists_ofUplink_toUplink
          ⟨session.router.allocateId.1, line, data⟩ client.securityCode
        refine ⟨line, _, _, heard, rfl, rfl, Packet.ofBytes_bytes hmax, Uplink.decode_encode _, rfl,
          hheard, hsame, hzero, ?_⟩
        intro htemplate harguments
        refine hsame.mpr fun hmem => ?_
        rcases Formatter.mem_format hformat hmem with hmem | ⟨value, hvalue, hmem⟩
        · exact htemplate hmem
        · exact harguments value hvalue hmem
      · rw [Session.transport_execute_of_not_sends hsends]
        refine ⟨[], (List.append_nil _).symm, iff_of_false (not_not_intro rfl) ?_,
          fun h => absurd rfl h⟩
        rintro ⟨other, hother, hothers⟩
        cases hother
        exact hsends hothers

/-- A file is fetched under a name of letters, and another one under a name with a zero in it. -/
theorem command_is_heard_as_meant_iff_fetched :
    let client : Client := ⟨0xDEADBEEF, {}, 5000⟩
    (∃ sent, (client.fetchFile "/a" ⟨{}, []⟩).2.router.transport.written = sent ∧ sent ≠ [] ∧
      ∃ packet uplink, Packet.ofBytes sent = .ok packet ∧
        Uplink.decode packet.data = .ok uplink ∧ uplink.securityCode = 0xDEADBEEF ∧
        TerminalRequest.ofUplink uplink = .ok ⟨0, "readFile /a", none⟩) ∧
      ∃ sent, (client.fetchFile "/a\x00b" ⟨{}, []⟩).2.router.transport.written = sent ∧ sent ≠ [] ∧
        ∃ packet uplink, Packet.ofBytes sent = .ok packet ∧
          Uplink.decode packet.data = .ok uplink ∧ uplink.securityCode = 0xDEADBEEF ∧
          TerminalRequest.ofUplink uplink = .ok ⟨0, "readFile /a", some [0x62]⟩ := by
  have hformat : ∀ path, Formatter.format {} Telecommand.fetchFile.template ⟨[path], []⟩ =
      .ok ("readFile " ++ path) :=
    Formatter.format_plain_argument {} "readFile " (by simp [isBrace])
  constructor
  · obtain ⟨sent, hwritten, hsends, hheard⟩ := command_is_heard_as_meant_iff ⟨0xDEADBEEF, {}, 5000⟩
      .fetchFile ⟨["/a"], []⟩ none 5000 ⟨{}, []⟩
    have hsent : sent ≠ [] :=
      hsends.mpr ⟨_, hformat _, ⟨_, rfl⟩, by decide, rfl, rfl⟩
    obtain ⟨line, packet, uplink, heard, hline, -, hpacket, huplink, hcode, hrequest, hsame, -⟩ :=
      hheard hsent
    cases (hformat _).symm.trans hline
    rw [hsame.mpr (by decide)] at hrequest
    exact ⟨sent, hwritten, hsent, packet, uplink, hpacket, huplink, hcode, hrequest⟩
  · obtain ⟨sent, hwritten, hsends, hheard⟩ := command_is_heard_as_meant_iff ⟨0xDEADBEEF, {}, 5000⟩
      .fetchFile ⟨["/a\x00b"], []⟩ none 5000 ⟨{}, []⟩
    have hsent : sent ≠ [] :=
      hsends.mpr ⟨_, hformat _, ⟨_, rfl⟩, by decide, rfl, rfl⟩
    obtain ⟨line, packet, uplink, heard, hline, -, hpacket, huplink, hcode, hrequest, -, hzero,
      -⟩ :=
      hheard hsent
    cases (hformat _).symm.trans hline
    rw [hzero "readFile /a" "b" (by decide) (by decide)] at hrequest
    exact ⟨sent, hwritten, hsent, packet, uplink, hpacket, huplink, hcode, hrequest⟩

/-- A path with a zero character: the satellite is told to write another file, with the end of the
path and a zero in front of the content. -/
theorem zero_character_moves_the_split :
    let client : Client := ⟨0xDEADBEEF, {}, 5000⟩
    client.formatter.format Telecommand.writeFile.template ⟨["/a\x00b"], []⟩ =
        .ok "writeFile /a\x00b" ∧
      ∃ packet uplink,
        (client.writeFile "/a\x00b" [0xAA] ⟨{}, []⟩).2.router.transport.written = packet.bytes ∧
        Packet.ofBytes packet.bytes = .ok packet ∧ Uplink.decode packet.data = .ok uplink ∧
        TerminalRequest.ofUplink uplink = .ok ⟨0, "writeFile /a", some [0x62, 0x00, 0xAA]⟩ ∧
        TerminalRequest.ofUplink uplink ≠ .ok ⟨0, "writeFile /a\x00b", some [0xAA]⟩ := by
  have hformat : Formatter.format {} Telecommand.writeFile.template ⟨["/a\x00b"], []⟩ =
      .ok "writeFile /a\x00b" :=
    Formatter.format_plain_argument {} "writeFile " (by simp [isBrace]) "/a\x00b"
  have hheard := @TerminalRequest.ofUplink_toUplink_of_zero
    ⟨0, "writeFile /a\x00b", some [0xAA]⟩ 0xDEADBEEF "writeFile /a" "b" (by decide) (by decide)
  refine ⟨hformat, ⟨_⟩, _, ?_, Packet.ofBytes_bytes ?_, Uplink.decode_encode _, hheard, ?_⟩
  · rw [Client.writeFile, Client.execute, Client.run_of_format hformat]
    exact Session.written_execute ⟨⟨_, rfl⟩, by decide, rfl, rfl⟩
  · decide
  · rw [hheard]
    simp

end GroundLink.Command
