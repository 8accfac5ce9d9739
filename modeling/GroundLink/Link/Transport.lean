import GroundLink.Link.Packet

/-! # Sending

Every payload goes out as one packet. The stream below takes a packet as a whole or
refuses it; it may also take it and then fail to pass it on. A closed transport takes
nothing any more.
-/

namespace GroundLink.Link

/-- Why a payload was not sent. -/
inductive TransportError where
  /-- The stream failed, for the reason that it gives. -/
  | streamFailed (reason : String)
  | closed
  | tooLarge (length : Nat)
  deriving Repr, DecidableEq

namespace TransportError

def message : TransportError → String
  | streamFailed reason => streamFaultText reason
  | closed => "transport is closed"
  | tooLarge length => s!"{length} bytes exceed the maximum packet size"

end TransportError

/-- The sending side of the link: what its stream has taken, and how it fails at present. -/
structure Transport where
  written : Bytes := []
  isOpen : Bool := true
  writeFault : Option String := none
  flushFault : Option String := none
  deriving Repr, DecidableEq

namespace Transport

def close (transport : Transport) : Transport := { transport with isOpen := false }

/-- From now on the stream fails as given. -/
def breakWith (transport : Transport) (writeFault flushFault : Option String) : Transport :=
  { transport with writeFault, flushFault }

/-- Sends a payload as one packet. -/
def send (transport : Transport) (payload : Bytes) : Except TransportError Unit × Transport :=
  if payload.length > maxDataLength then (.error (.tooLarge payload.length), transport)
  else if !transport.isOpen then (.error .closed, transport)
  else
    match transport.writeFault with
    | some reason => (.error (.streamFailed reason), transport)
    | none =>
        let after := { transport with written := transport.written ++ Packet.bytes ⟨payload⟩ }
        match transport.flushFault with
        | some reason => (.error (.streamFailed reason), after)
        | none => (.ok (), after)

end Transport

end GroundLink.Link
