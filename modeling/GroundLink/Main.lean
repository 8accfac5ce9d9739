import GroundLink.Command.Catalogue
import GroundLink.Reader

/-! # The command line

Opens the serial device that the settings name, asks the satellite whether it is there,
and writes down what arrives until the link ends. The device is used at the speed at
which it is set up.
-/

namespace GroundLink

open Link Command

/-- A fault of the system as a reason why a file cannot be read. -/
def FileFault.ofSystem : IO.Error → FileFault
  | .noFileOrDirectory .. => .notFound
  | error => .other (toString error)

/-- The octets of a file of the system. -/
def readPath (path : String) : IO (Except FileFault Bytes) := do
  try
    let content ← IO.FS.readBinFile path
    return .ok content.toList
  catch error => return .error (.ofSystem error)

/-- Settings that cannot be used end the program. -/
def orFail {α : Type} : Except ConfigError α → IO α
  | .ok value => pure value
  | .error error => throw (IO.userError error.message)

/-- A log on the terminal and in a file. -/
structure Log where
  level : LogLevel
  file : IO.FS.Handle

namespace Log

def say (log : Log) (level : LogLevel) (text : String) : IO Unit := do
  if log.level.shows level then
    let line := s!"[{level.name}] {text}"
    IO.println line
    log.file.putStrLn line
    log.file.flush

end Log

/-- What arrives: the octets that have not been looked at, and the thread that collects
them. -/
structure Source where
  waiting : IO.Ref ByteArray
  collector : Task (Except IO.Error Unit)

namespace Source

/-- Collects from a device until it ends. One octet is asked for at a time, so that none waits
for others. -/
def ofDevice (device : IO.FS.Handle) : IO Source := do
  let waiting ← IO.mkRef ByteArray.empty
  let collect : IO Unit := do
    repeat
      let octets ← device.read 1
      if octets.isEmpty then break
      waiting.modify (· ++ octets)
  return ⟨waiting, ← IO.asTask collect .dedicated⟩

/-- Everything that has arrived by now. -/
def read (source : Source) : IO ReadResult := do
  let ended ← IO.hasFinished source.collector
  let octets ← source.waiting.swap .empty
  if !octets.isEmpty then return .octets octets.toList
  if !ended then return .pause
  match source.collector.get with
  | .ok () => return .endOfStream
  | .error error => return .failure (toString error)

end Source

/-- The two sides of an open link, with the log. -/
structure Monitor where
  log : Log
  device : IO.FS.Handle
  source : Source
  reader : FrameReader
  router : Router
  /-- The octets of an incomplete packet, or `none` once the link has ended. -/
  assembler : Option Assembler := some ⟨[]⟩

namespace Monitor

/-- The name under which the monitor sees frames that nobody waits for. -/
def observer : String := "monitor"

/-- One line about a frame. -/
def describe : Frame → String
  | .response response => s!"response {response.id} from {response.kind.apid.name}"
  | .beacon payload => s!"beacon of {payload.length} bytes"
  | .unknown raw => s!"frame of {raw.length} bytes"

/-- Writes down what an action of the reader says. -/
def note (monitor : Monitor) : ReaderAction → IO Unit
  | .note found => monitor.log.say found.level found.message
  | .publish snapshot => monitor.log.say .info ("Beacon\n" ++ snapshot.text)
  | .close reason => monitor.log.say .error ("Link closed: " ++ reason)
  | .deliver _ => pure ()

/-- Carries out what has arrived, and lets the time pass. -/
def advance (monitor : Monitor) : IO Monitor := do
  let (actions, assembler) ← match monitor.assembler with
    | some assembler => pure (monitor.reader.step assembler (← monitor.source.read))
    | none => pure ([], none)
  actions.forM monitor.note
  if actions.isEmpty then IO.sleep 10
  let router := (actions.foldl Router.perform monitor.router).waitUntil (← IO.monoMsNow)
  for (_, frame) in router.observed do
    monitor.log.say .info ("Unsolicited " ++ describe frame)
  return { monitor with assembler, router := { router with observed := [] } }

/-- Writes out the packet of a request. -/
def flush (monitor : Monitor) (handle : Handle) : IO Monitor := do
  let router := monitor.router
  let sent := { router with transport := { router.transport with written := [] } }
  try
    monitor.device.write ⟨router.transport.written.toArray⟩
    monitor.device.flush
    return { monitor with router := sent }
  catch error =>
    let reason := (TransportError.streamFailed (toString error)).message
    return { monitor with router := { sent with table := sent.table.abandonIssue handle reason } }

/-- Executes a command, and goes on reading while its response has not come. -/
def execute {α : Type} (monitor : Monitor) (client : Client) (command : Telecommand α) :
    IO (Except ClientError α × Monitor) := do
  match client.prepare command ⟨[], []⟩ none client.timeout monitor.router with
  | (.error error, router) => return (.error error, { monitor with router })
  | (.ok (line, request), router) =>
      match { router with now := ← IO.monoMsNow }.issue request with
      | (.error error, router) => return (.error (.router error), { monitor with router })
      | (.ok handle, router) =>
          let mut monitor ← { monitor with router }.flush handle
          while !monitor.router.isResolved handle do
            monitor ← monitor.advance
          let (outcome, router) := monitor.router.wait handle
          return (Client.conclude command.reading line outcome, { monitor with router })

/-- Asks the satellite whether it is there, and watches the link until it ends. -/
def watch (monitor : Monitor) (client : Client) : IO Unit := do
  let (answer, monitor) ← monitor.execute client .ping
  match answer with
  | .ok pong => monitor.log.say .info ("OBC answered ping with " ++ Text.quoted pong)
  | .error error => monitor.log.say .error ("Ping failed: " ++ error.message)
  let mut monitor := monitor
  while monitor.assembler.isSome do
    monitor ← monitor.advance
  monitor.log.say .info "Link closed, shutting down"

end Monitor

/-- Watches the link with the settings at a path. -/
def runWith (path : String) : IO Unit := do
  let settings ← readPath path
  let config ← orFail (Config.load (fun _ => settings) path)
  let level ← orFail config.logLevel
  let log : Log := ⟨level, ← IO.FS.Handle.mk config.logPath .append⟩
  log.say .info "OBC harness started"
  let layout ← match config.layoutPath with
    | some path => readPath path
    | none => pure (.error .notFound)
  let decoder ← orFail (config.decoder fun _ => layout)
  let source ← Source.ofDevice (← IO.FS.Handle.mk config.uart .read)
  let device ← IO.FS.Handle.mk config.uart .readWrite
  log.say .info s!"Opened {config.uart} at {config.baudrate} baud"
  let router := Router.observe {} [Monitor.observer]
  let client : Client :=
    { securityCode := UInt32.ofNat config.securityCode, timeout := config.defaultTimeout }
  Monitor.watch { log, device, source, reader := { decoder }, router } client

end GroundLink

/-- The first argument is the path of the settings. -/
def main (arguments : List String) : IO UInt32 := do
  try
    GroundLink.runWith (arguments.headD "./config.toml")
    return 0
  catch error =>
    IO.eprintln s!"Error: {error}"
    return 1
