import GroundLink.Link.Transport
import GroundLink.Proofs.Link.Noise
import Mathlib.Data.List.Induction

/-! # What is sent comes out

Payloads go onto the stream one packet behind the other, and an assembler finds them there, in
order and nothing else. A send that fails leaves no trace on the stream, whatever the reason,
unless it is the flush that fails: the packet has gone out then. So the two ends of the link never
get out of step.
-/

namespace GroundLink.Link

namespace Transport

/-- What a transport needs to take a payload, even if it then fails to pass it on. -/
structure Takes (transport : Transport) (payload : Bytes) : Prop where
  fits : payload.length ≤ maxDataLength
  opened : transport.isOpen = true
  writes : transport.writeFault = none

variable {transport : Transport} {payload : Bytes}

theorem send_of_takes (h : transport.Takes payload) :
    (transport.send payload).2 =
      { transport with written := transport.written ++ Packet.bytes ⟨payload⟩ } := by
  have hopened : (!transport.isOpen) = false := by rw [h.opened, Bool.not_true]
  rw [send, if_neg (Nat.not_lt.mpr h.fits), hopened, if_neg Bool.false_ne_true, h.writes]
  dsimp only
  split <;> rfl

theorem written_send_of_takes (h : transport.Takes payload) :
    (transport.send payload).2.written = transport.written ++ Packet.bytes ⟨payload⟩ := by
  rw [send_of_takes h]

/-- What a transport does not take leaves it as it was. -/
theorem send_of_not_takes (h : ¬ transport.Takes payload) :
    (transport.send payload).2 = transport := by
  unfold send
  split
  · rfl
  next hfits =>
    split
    · rfl
    next hopened =>
      split
      · rfl
      next hwrites =>
        exact absurd ⟨Nat.not_lt.mp hfits, by simpa using hopened, hwrites⟩ h

end Transport

/-- What is done with a transport. -/
inductive TransportCall where
  | send (payload : Bytes)
  | close
  /-- From now on the stream fails as given. -/
  | breakWith (writeFault flushFault : Option String)
  deriving Repr, DecidableEq

namespace TransportCall

/-- The faults of writing and of flushing that a call sets. -/
def faults? : TransportCall → Option (Option String × Option String)
  | breakWith writeFault flushFault => some (writeFault, flushFault)
  | _ => none

end TransportCall

/-- How writing and flushing fail after some calls: as was set last, and not at all before that. -/
def faultsAfter (calls : List TransportCall) : Option String × Option String :=
  (calls.filterMap TransportCall.faults?).getLast?.getD (none, none)

theorem faultsAfter_concat (calls : List TransportCall) (call : TransportCall) :
    faultsAfter (calls ++ [call]) = call.faults?.getD (faultsAfter calls) := by
  rw [faultsAfter, List.filterMap_append, List.getLast?_append]
  cases hfaults : call.faults? with
  | none => simp [hfaults, faultsAfter]
  | some faults => simp [hfaults]

/-- A payload that goes out behind some calls: it is not too long, nothing has been closed, and
writing does not fail. -/
structure Carried (before : List TransportCall) (payload : Bytes) : Prop where
  fits : payload.length ≤ maxDataLength
  opened : .close ∉ before
  writes : (faultsAfter before).1 = none

theorem carried_iff {before : List TransportCall} {payload : Bytes} :
    payload.length ≤ maxDataLength ∧ .close ∉ before ∧ (faultsAfter before).1 = none ↔
      Carried before payload :=
  ⟨fun ⟨hfits, hopened, hwrites⟩ => ⟨hfits, hopened, hwrites⟩,
    fun h => ⟨h.fits, h.opened, h.writes⟩⟩

instance (before : List TransportCall) (payload : Bytes) : Decidable (Carried before payload) :=
  decidable_of_iff _ carried_iff

/-- The payloads that go out with some calls behind others, in order. -/
def carriedAfter (before : List TransportCall) : List TransportCall → List Bytes
  | [] => []
  | .send payload :: rest =>
      if Carried before payload then payload :: carriedAfter (before ++ [.send payload]) rest
      else carriedAfter (before ++ [.send payload]) rest
  | call :: rest => carriedAfter (before ++ [call]) rest

theorem carriedAfter_append (before first second : List TransportCall) :
    carriedAfter before (first ++ second) =
      carriedAfter before first ++ carriedAfter (before ++ first) second := by
  induction first generalizing before with
  | nil => rw [List.nil_append, List.append_nil, carriedAfter, List.nil_append]
  | cons call rest ih =>
      rw [List.cons_append, List.append_cons before call rest]
      cases call with
      | send payload =>
          simp only [carriedAfter, ih]
          split <;> rfl
      | close => exact ih _
      | breakWith writeFault flushFault => exact ih _

/-- How sending a payload behind some calls ends, and the payloads that go out with it: this one or
none. -/
inductive Attempt (before : List TransportCall) (payload : Bytes) :
    Except TransportError Unit → List Bytes → Prop
  | tooLarge (hlarge : maxDataLength < payload.length) :
      Attempt before payload (.error (.tooLarge payload.length)) []
  | closed (hfits : payload.length ≤ maxDataLength) (hclosed : .close ∈ before) :
      Attempt before payload (.error .closed) []
  | writeFailed (hfits : payload.length ≤ maxDataLength) (hopened : .close ∉ before)
      (reason : String) (hwrite : (faultsAfter before).1 = some reason) :
      Attempt before payload (.error (.streamFailed reason)) []
  /-- The only failure of a payload that has gone out. -/
  | flushFailed (hcarried : Carried before payload) (reason : String)
      (hflush : (faultsAfter before).2 = some reason) :
      Attempt before payload (.error (.streamFailed reason)) [payload]
  | sent (hcarried : Carried before payload) (hflush : (faultsAfter before).2 = none) :
      Attempt before payload (.ok ()) [payload]

namespace Transport

def apply (transport : Transport) : TransportCall → Transport
  | .send payload => (transport.send payload).2
  | .close => transport.close
  | .breakWith writeFault flushFault => transport.breakWith writeFault flushFault

/-- A new transport after some calls. -/
def after (calls : List TransportCall) : Transport := calls.foldl apply {}

theorem after_concat (calls : List TransportCall) (call : TransportCall) :
    after (calls ++ [call]) = (after calls).apply call :=
  List.foldl_append

/-- A send changes at most what has been written. -/
theorem exists_send_eq (transport : Transport) (payload : Bytes) :
    ∃ written, (transport.send payload).2 = { transport with written } := by
  by_cases h : transport.Takes payload
  · exact ⟨_, send_of_takes h⟩
  · exact ⟨_, send_of_not_takes h⟩

theorem isOpen_after (calls : List TransportCall) :
    (after calls).isOpen = true ↔ .close ∉ calls := by
  induction calls using List.reverseRecOn with
  | nil => simp [after]
  | append_singleton calls call ih =>
      rw [after_concat, List.mem_append, List.mem_singleton, not_or, ← ih]
      cases call with
      | send payload =>
          obtain ⟨written, hsend⟩ := (after calls).exists_send_eq payload
          simp [apply, hsend]
      | close => simp [apply, close]
      | breakWith writeFault flushFault => simp [apply, breakWith]

theorem faults_after (calls : List TransportCall) :
    ((after calls).writeFault, (after calls).flushFault) = faultsAfter calls := by
  induction calls using List.reverseRecOn with
  | nil => rfl
  | append_singleton calls call ih =>
      rw [after_concat, faultsAfter_concat, ← ih]
      cases call with
      | send payload =>
          obtain ⟨written, hsend⟩ := (after calls).exists_send_eq payload
          rw [apply, hsend]
          rfl
      | close => rfl
      | breakWith writeFault flushFault => rfl

theorem takes_after_iff {before : List TransportCall} {payload : Bytes} :
    (after before).Takes payload ↔ Carried before payload := by
  have hfaults := faults_after before
  constructor
  · intro h
    exact ⟨h.fits, (isOpen_after before).mp h.opened, by rw [← hfaults, h.writes]⟩
  · intro h
    refine ⟨h.fits, (isOpen_after before).mpr h.opened, ?_⟩
    rw [← h.writes, ← hfaults]

/-- How a send ends, and whether its payload goes out, shows in the calls before it. -/
theorem attempt_send (before : List TransportCall) (payload : Bytes) :
    Attempt before payload ((after before).send payload).1
      (carriedAfter before [.send payload]) := by
  have hfaults := faults_after before
  have hopen := isOpen_after before
  unfold send carriedAfter
  split
  next hlarge =>
    rw [if_neg fun h => Nat.not_le.mpr hlarge h.fits]
    exact .tooLarge hlarge
  next hfits =>
    replace hfits := Nat.not_lt.mp hfits
    split
    next hclosed =>
      replace hclosed : .close ∈ before := by
        rw [Bool.not_eq_true', ← Bool.not_eq_true, hopen, not_not] at hclosed
        exact hclosed
      rw [if_neg fun h => h.opened hclosed]
      exact .closed hfits hclosed
    next hopened =>
      replace hopened : .close ∉ before := by
        rw [Bool.not_eq_true', Bool.not_eq_false, hopen] at hopened
        exact hopened
      split
      next reason hwrite =>
        replace hwrite : (faultsAfter before).1 = some reason := by rw [← hfaults, hwrite]
        rw [if_neg fun h => Option.some_ne_none reason (hwrite.symm.trans h.writes)]
        exact .writeFailed hfits hopened reason hwrite
      next hwrite =>
        have hcarried : Carried before payload := ⟨hfits, hopened, by rw [← hfaults, hwrite]⟩
        rw [if_pos hcarried]
        dsimp only
        split
        next reason hflush => exact .flushFailed hcarried reason (by rw [← hfaults, hflush])
        next hflush => exact .sent hcarried (by rw [← hfaults, hflush])

/-- The stream holds the packets of the payloads that go out. -/
theorem written_after (before calls : List TransportCall) :
    (after (before ++ calls)).written =
      (after before).written ++
        (carriedAfter before calls).flatMap fun payload => Packet.bytes ⟨payload⟩ := by
  induction calls generalizing before with
  | nil => simp [carriedAfter]
  | cons call rest ih =>
      rw [List.append_cons, ih, after_concat]
      cases call with
      | send payload =>
          rw [carriedAfter, apply]
          split
          next hcarried =>
            rw [written_send_of_takes (takes_after_iff.mpr hcarried), List.flatMap_cons,
              List.append_assoc]
          next hcarried => rw [send_of_not_takes (mt takes_after_iff.mp hcarried)]
      | close => rfl
      | breakWith writeFault flushFault => rfl

end Transport

theorem fits_of_mem_carriedAfter {before calls : List TransportCall} {payload : Bytes}
    (h : payload ∈ carriedAfter before calls) : payload.length ≤ maxDataLength := by
  induction calls generalizing before with
  | nil => cases h
  | cons call rest ih =>
      cases call with
      | send sent =>
          rw [carriedAfter] at h
          split at h
          next hcarried =>
            rcases List.mem_cons.mp h with rfl | h
            · exact hcarried.fits
            · exact ih h
          next => exact ih h
      | close => exact ih h
      | breakWith writeFault flushFault => exact ih h

/-- Packets that stand one behind the other are all found. -/
theorem Assembler.drain_packets {payloads : List Bytes}
    (hfits : ∀ payload ∈ payloads, payload.length ≤ maxDataLength) :
    drain ⟨payloads.flatMap fun payload => Packet.bytes ⟨payload⟩⟩ =
      (payloads.map fun payload => .ok ⟨payload⟩, .empty) := by
  induction payloads with
  | nil => exact drain_empty
  | cons payload rest ih =>
      have hfirst := drain_segment (.intact ⟨payload⟩ (hfits payload List.mem_cons_self))
        (rest.flatMap fun payload => Packet.bytes ⟨payload⟩)
      rw [ih fun other hother => hfits other (List.mem_cons_of_mem _ hother)] at hfirst
      exact hfirst

/-- Payloads of any length are sent, the stream fails and recovers, and the transport is closed, in
any order. The stream is then taken apart into just those payloads that are not too long and were
sent before the close while writing did not fail, each once and in order, and nothing is left. So it
is, too, when the octets arrive in pieces and packets are asked for in between. The payload of a
send that succeeds is among them, and one that fails has brought nothing onto the stream, unless it
failed in flushing. -/
theorem sent_payloads_come_out (calls : List TransportCall) :
    let sent := (Transport.after calls).written
    let found : List (Except LinkError Packet) :=
      (carriedAfter [] calls).map fun payload => .ok ⟨payload⟩
    (Assembler.empty.extend sent).drain = (found, .empty) ∧
      (∀ arrivals, arrived arrivals = sent → (Assembler.empty.feed arrivals).2.next.1 = none →
        Assembler.empty.feed arrivals = (found, .empty)) ∧
      ∀ before payload,
        let carried := carriedAfter before [.send payload]
        Attempt before payload ((Transport.after before).send payload).1 carried ∧
          carriedAfter [] (before ++ [.send payload]) = carriedAfter [] before ++ carried ∧
          (Transport.after (before ++ [.send payload])).written =
            (Transport.after before).written ++
              carried.flatMap fun payload => Packet.bytes ⟨payload⟩ := by
  intro sent found
  have hsent : sent = (carriedAfter [] calls).flatMap fun payload => Packet.bytes ⟨payload⟩ :=
    Transport.written_after [] calls
  have hdrain : (Assembler.empty.extend sent).drain = (found, .empty) := by
    rw [hsent]
    exact Assembler.drain_packets fun _ => fits_of_mem_carriedAfter
  refine ⟨hdrain, ?_, ?_⟩
  · intro arrivals harrived hended
    rw [← Assembler.drain_extend_of_feed hended, harrived, hdrain]
  · intro before payload
    exact ⟨Transport.attempt_send before payload, carriedAfter_append [] before _,
      Transport.written_after before _⟩

/-- Of seven sends one fails in flushing, one in writing, one for its length and one for the close,
and the octets of the other three and of the first of these arrive cut inside a packet. -/
theorem sent_payloads_come_out_failing :
    let calls : List TransportCall :=
      [.send [1], .breakWith none (some "full"), .send [2], .breakWith (some "gone") none,
        .send [3], .breakWith none none, .send (List.replicate 2049 0), .send [headerOctet],
        .send [], .close, .send [5]]
    let sent := (Transport.after calls).written
    let found : List (Except LinkError Packet) :=
      [.ok ⟨[1]⟩, .ok ⟨[2]⟩, .ok ⟨[headerOctet]⟩, .ok ⟨[]⟩]
    (Assembler.empty.extend sent).drain = (found, .empty) ∧
      Assembler.empty.feed ([.extend (sent.take 11), .next, .next, .extend (sent.drop 11)] ++
          List.replicate 4 .next) =
        (found, .empty) := by
  intro calls sent found
  have hfound : found = (carriedAfter [] calls).map fun payload => .ok ⟨payload⟩ := by
    decide +kernel
  obtain ⟨hdrain, hfeed, -⟩ := sent_payloads_come_out calls
  rw [hfound]
  exact ⟨hdrain, hfeed _ (by decide +kernel) (by decide +kernel)⟩

end GroundLink.Link
