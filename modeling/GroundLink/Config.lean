import GroundLink.Files
import GroundLink.Telemetry.Layout

/-! # Settings

The settings are a document with two required keys, the serial device and its speed;
everything else has a default. The level of the log and the layout of the beacon are
looked up only when they are needed, so a mistake in them is reported then.
-/

namespace GroundLink

open Telemetry

inductive LogLevel where
  | off
  | error
  | warn
  | info
  | debug
  | trace
  deriving Repr, DecidableEq

namespace LogLevel

def all : List LogLevel := [off, error, warn, info, debug, trace]

def name : LogLevel → String
  | off => "OFF"
  | error => "ERROR"
  | warn => "WARN"
  | info => "INFO"
  | debug => "DEBUG"
  | trace => "TRACE"

/-- Whether a log of this level shows what is said at another one. -/
def shows (limit level : LogLevel) : Bool := all.idxOf level ≤ all.idxOf limit

/-- The level of a name in letters of any case. Only the letters A to Z have a case here. -/
def ofName? (text : String) : Option LogLevel :=
  all.find? fun level => level.name.toList == text.toList.map Char.toUpper

end LogLevel

/-- Why there are no settings, or why one of them cannot be used. -/
inductive ConfigError where
  | unreadable (path : String) (fault : FileFault)
  | malformed
  | logLevel (text : String)
  | layoutUnreadable (fault : FileFault)
  | layoutMalformed
  | layoutInconsistent (error : TelemetryError)
  deriving Repr, DecidableEq

namespace ConfigError

def message : ConfigError → String
  | unreadable path fault => "could not read " ++ Text.quoted path ++ ": " ++ fault.message
  | malformed => "invalid configuration"
  | logLevel text => "unknown log level " ++ Text.quoted text
  | layoutUnreadable fault => "beacon layout: " ++ fault.message
  | layoutMalformed => "beacon layout: invalid document"
  | layoutInconsistent error => "beacon layout: " ++ error.message

end ConfigError

structure Config where
  uart : String
  baudrate : Nat
  logPath : String
  logLevelName : String
  securityCode : Nat
  /-- How long a request waits for its response, in milliseconds. -/
  defaultTimeout : Nat
  /-- The document with the layout of the beacon; without it the built-in layout is used. -/
  layoutPath : Option String
  deriving Repr, DecidableEq

namespace Config

open Toml in
/-- The settings that a document gives, or `none` if it is no such document. -/
def parse? (text : String) : Option Config := do
  let document ← Toml.parse? text
  let record := Record.named document
  let uart ← record.required 0 "uart" Value.string?
  let baudrate ← record.required 1 "baudrate" (Value.natural? (Nat.pow 2 32))
  let logPath ← record.withDefault 2 "log_path" Value.string? "log"
  let logLevelName ← record.withDefault 3 "log_level" Value.string? "info"
  let securityCode ← record.withDefault 4 "security_code" (Value.natural? (Nat.pow 2 32)) 0
  let defaultTimeout ←
    record.withDefault 5 "default_timeout_ms" (Value.natural? Numeral.wordLimit) 5000
  let layoutPath ← record.optional 6 "beacon_layout" Value.string?
  pure { uart, baudrate, logPath, logLevelName, securityCode, defaultTimeout, layoutPath }

def ofText (text : String) : Except ConfigError Config :=
  match parse? text with
  | some config => .ok config
  | none => .error .malformed

def load (files : FileSource) (path : String) : Except ConfigError Config :=
  match files.readText path with
  | .ok text => ofText text
  | .error fault => .error (.unreadable path fault)

def logLevel (config : Config) : Except ConfigError LogLevel :=
  match LogLevel.ofName? config.logLevelName with
  | some level => .ok level
  | none => .error (.logLevel config.logLevelName)

/-- The layout that the settings name. -/
def layout (config : Config) (files : FileSource) : Except ConfigError BeaconLayout :=
  match config.layoutPath with
  | none => .ok .builtIn
  | some path =>
      match files.readText path with
      | .error fault => .error (.layoutUnreadable fault)
      | .ok text =>
          match BeaconLayout.parse? text with
          | some layout => .ok layout
          | none => .error .layoutMalformed

def decoder (config : Config) (files : FileSource) : Except ConfigError BeaconDecoder := do
  let layout ← config.layout files
  match layout.decoder with
  | .ok decoder => .ok decoder
  | .error error => .error (.layoutInconsistent error)

end Config

end GroundLink
