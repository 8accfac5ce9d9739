import GroundLink.Downlink
import Mathlib.Data.List.Basic

/-! # Frames from the satellite and their octets

The first six bits of a frame name an application and the next eighteen number the frame. They are
written one behind the other, so that neither reaches into the other or into the body, and what is
read depends on the application and the body alone. So a frame comes back from its octets unless it
looks like another frame, and octets come back from their frame but for the number.
-/

namespace GroundLink

open Telemetry

namespace Frame

/-- The application that the first six bits name. -/
def apidIn? (raw : Bytes) : Option Apid := Apid.ofCode? (Bits.toNat ((Bits.ofBytes raw).take 6))

/-- The frame of an application with a body behind its header. -/
def ofBody? : Apid → Bytes → Option Frame
  | .beacon, payload => some (beacon payload)
  | apid, id :: code :: payload => some (response ⟨⟨apid, .ofCode code⟩, id, payload⟩)
  | _, _ => none

/-- The application of a frame and the body behind its header. -/
def body? : Frame → Option (Apid × Bytes)
  | response ⟨kind, id, payload⟩ => some (kind.apid, id :: kind.status.code :: payload)
  | beacon payload => some (.beacon, payload)
  | unknown _ => none

/-- The frames that do not pass for others. A response of the beacon application passes for a
beacon, one with the error 0 for a success, and unknown octets for the frame that they spell. -/
def Canonical : Frame → Prop
  | response found => found.kind.apid ≠ .beacon ∧ found.kind.status ≠ .error 0
  | beacon _ => True
  | unknown raw => decode raw = unknown raw

variable {frame : Frame} {apid : Apid} {head body raw : Bytes}

/-! ### Headers -/

theorem length_header (apid : Apid) (sequence : Nat) :
    (header apid sequence).length = headerLength := by
  simp [header, Apid.bits, sequenceBits, headerLength]

/-- The writer puts the code of the application in front of the sequence number, and leaves no bit
of the header free. -/
theorem ofBytes_header (apid : Apid) (sequence : Nat) :
    Bits.ofBytes (header apid sequence) = Bits.ofNat 6 apid.code ++ Bits.ofNat 18 sequence := by
  rw [header, BitWriter.ofBytes_bytes, BitWriter.bits_write, BitWriter.bits_write]
  simp [BitWriter.bits, Bits.ofNat, Apid.bits, sequenceBits]

/-- A cursor reads the application from the first six bits of a header. -/
theorem read_head (hhead : head.length = headerLength) :
    ∃ next, (BitCursor.ofBytes head).read Apid.bits =
      .ok (Bits.toNat ((Bits.ofBytes head).take 6), next) := by
  have hinside : Apid.bits ≤ (BitCursor.ofBytes head).remaining := by
    simp [BitCursor.remaining, BitCursor.total, BitCursor.ofBytes, hhead, headerLength, Apid.bits]
  obtain ⟨next, hnext⟩ := BitCursor.exists_skip hinside
  exact ⟨next, BitCursor.read_of_skip hnext (by decide)⟩

theorem apidIn?_header (apid : Apid) (sequence : Nat) :
    apidIn? (header apid sequence) = some apid := by
  have hcode : apid.code % Nat.pow 2 6 = apid.code := Nat.mod_eq_of_lt apid.code_lt
  rw [apidIn?, ofBytes_header, List.take_left' (Bits.length_ofNat 6 apid.code), Bits.toNat_ofNat,
    hcode, Apid.ofCode?_code]

/-- The code of the application that a header names stands in its first six bits. -/
theorem ofNat_code (hhead : head.length = headerLength) (hapid : apidIn? head = some apid) :
    Bits.ofNat 6 apid.code = (Bits.ofBytes head).take 6 := by
  have hlength : ((Bits.ofBytes head).take 6).length = 6 := by
    rw [List.length_take, Bits.length_ofBytes, hhead]
    rfl
  have hbits := Bits.ofNat_toNat ((Bits.ofBytes head).take 6)
  rwa [hlength, ← Apid.code_of_ofCode? hapid] at hbits

/-! ### Header and body -/

theorem exists_head (h : ¬ raw.length < headerLength) :
    ∃ head body, head.length = headerLength ∧ raw = head ++ body :=
  ⟨raw.take headerLength, raw.drop headerLength, List.length_take_of_le (Nat.not_lt.mp h),
    (List.take_append_drop _ _).symm⟩

theorem decode_of_short (h : raw.length < headerLength) : decode raw = unknown raw := if_pos h

theorem decode_append (hhead : head.length = headerLength) (body : Bytes) :
    decode (head ++ body) =
      ((apidIn? head).bind fun apid => ofBody? apid body).getD (unknown (head ++ body)) := by
  have hlong : ¬ (head ++ body).length < headerLength := by
    rw [List.length_append, hhead]
    exact Nat.not_lt.mpr (Nat.le_add_right _ _)
  obtain ⟨next, hread⟩ := read_head hhead
  rw [decode, if_neg hlong, List.take_left' hhead, List.drop_left' hhead, hread, apidIn?]
  dsimp only
  cases Apid.ofCode? (Bits.toNat ((Bits.ofBytes head).take 6)) with
  | none => rfl
  | some apid => rcases body with _ | ⟨id, _ | ⟨code, payload⟩⟩ <;> cases apid <;> rfl

theorem encode_of_body? (h : frame.body? = some (apid, body)) (sequence : Nat) :
    frame.encode sequence = header apid sequence ++ body := by
  cases frame <;> cases h <;> rfl

theorem ofBody?_of_ne (h : apid ≠ .beacon) (id code : UInt8) (payload : Bytes) :
    ofBody? apid (id :: code :: payload) =
      some (response ⟨⟨apid, .ofCode code⟩, id, payload⟩) := by
  cases apid with
  | beacon => exact absurd rfl h
  | _ => rfl

theorem body?_of_ofBody? (h : ofBody? apid body = some frame) :
    frame.body? = some (apid, body) := by
  unfold ofBody? at h
  split at h
  next =>
    cases h
    rfl
  next =>
    cases h
    rw [body?, Status.code_ofCode]
  next => cases h

/-- The body of a frame makes a frame again, the same one exactly if the frame is canonical. -/
theorem exists_ofBody? (h : frame.body? = some (apid, body)) :
    ∃ received, ofBody? apid body = some received ∧ (received = frame ↔ frame.Canonical) := by
  cases frame with
  | unknown raw => cases h
  | beacon payload =>
      cases h
      exact ⟨_, rfl, iff_of_true rfl trivial⟩
  | response found =>
      cases h
      obtain ⟨⟨apid, status⟩, id, payload⟩ := found
      by_cases hbeacon : apid = .beacon
      · subst hbeacon
        exact ⟨_, rfl, iff_of_false nofun fun hcanonical => hcanonical.1 rfl⟩
      · refine ⟨_, ofBody?_of_ne hbeacon id status.code payload, ?_⟩
        simp only [response.injEq, Response.mk.injEq, ResponseKind.mk.injEq, true_and, and_true,
          Status.ofCode_code_eq_iff, Canonical]
        exact (and_iff_right hbeacon).symm

/-! ### From a frame to octets and back -/

/-- What is read of a frame is made of its body, whatever the sequence number. -/
theorem decode_encode_of_ofBody? {received : Frame} (hbody : frame.body? = some (apid, body))
    (hreceived : ofBody? apid body = some received) (sequence : Nat) :
    decode (frame.encode sequence) = received := by
  rw [encode_of_body? hbody, decode_append (length_header apid sequence), apidIn?_header,
    Option.bind_some, hreceived, Option.getD_some]

/-- A frame comes back from its octets exactly if it is canonical. The number of a frame with a
header does not matter for what comes back: its low bits stand between the code of the application
and the body, and nothing else of it is written. -/
theorem frames_come_back_iff_canonical (frame : Frame) (sequence : Nat) :
    (decode (frame.encode sequence) = frame ↔ frame.Canonical) ∧
      ∀ apid body, frame.body? = some (apid, body) →
        (∀ other, decode (frame.encode other) = decode (frame.encode sequence)) ∧
          Bits.ofBytes (frame.encode sequence) =
            Bits.ofNat 6 apid.code ++ Bits.ofNat 18 sequence ++ Bits.ofBytes body := by
  constructor
  · cases hbody : frame.body? with
    | none =>
        cases frame with
        | unknown raw => exact Iff.rfl
        | _ => cases hbody
    | some parts =>
        obtain ⟨received, hreceived, hcanonical⟩ := exists_ofBody? hbody
        rwa [decode_encode_of_ofBody? hbody hreceived]
  · intro apid body hbody
    obtain ⟨received, hreceived, -⟩ := exists_ofBody? hbody
    constructor
    · intro other
      rw [decode_encode_of_ofBody? hbody hreceived, decode_encode_of_ofBody? hbody hreceived]
    · rw [encode_of_body? hbody, Bits.ofBytes_append, ofBytes_header]

/-- An answer of the terminal under a number of more than eighteen bits, and one with the
error 0. -/
theorem frames_come_back_iff_canonical_numbered :
    let answer := response ⟨⟨.terminal, .success⟩, 7, [0x4F, 0x4B]⟩
    let failure := response ⟨⟨.terminal, .error 0⟩, 7, []⟩
    decode (answer.encode 0x40001) = answer ∧
      decode (answer.encode 2) = decode (answer.encode 0x40001) ∧
      Bits.ofBytes (answer.encode 0x40001) =
        Bits.ofNat 6 3 ++ Bits.ofNat 18 1 ++ Bits.ofBytes [7, 0, 0x4F, 0x4B] ∧
      decode (failure.encode 0) ≠ failure := by
  intro answer failure
  obtain ⟨hanswer, hparts⟩ := frames_come_back_iff_canonical answer 0x40001
  obtain ⟨hsame, hbits⟩ := hparts .terminal [7, 0, 0x4F, 0x4B] rfl
  refine ⟨hanswer.mpr ⟨by decide, by decide⟩, hsame 2, hbits, fun hfailure => ?_⟩
  exact ((frames_come_back_iff_canonical failure 0).1.mp hfailure).2 rfl

/-! ### From octets to a frame and back -/

/-- The bits of a frame under another sequence number. -/
def renumbered (sequence : Nat) (bits : List Bool) : List Bool :=
  bits.take 6 ++ (Bits.ofNat 18 sequence ++ bits.drop 24)

section Renumbered

variable {bits : List Bool}

theorem length_take_code (h : 24 ≤ bits.length) : (bits.take 6).length = 6 :=
  List.length_take_of_le (by omega)

theorem length_renumbered (h : 24 ≤ bits.length) (sequence : Nat) :
    (renumbered sequence bits).length = bits.length := by
  simp only [renumbered, List.length_append, length_take_code h, Bits.length_ofNat,
    List.length_drop]
  omega

theorem take_renumbered (h : 24 ≤ bits.length) (sequence : Nat) :
    (renumbered sequence bits).take 6 = bits.take 6 := by
  rw [renumbered, List.take_left' (length_take_code h)]

theorem drop_renumbered (h : 24 ≤ bits.length) (sequence : Nat) :
    (renumbered sequence bits).drop 24 = bits.drop 24 := by
  have hlength : (bits.take 6 ++ Bits.ofNat 18 sequence).length = 24 := by
    rw [List.length_append, length_take_code h, Bits.length_ofNat]
  rw [renumbered, ← List.append_assoc, List.drop_left' hlength]

theorem renumbered_own (h : 24 ≤ bits.length) :
    renumbered (Bits.toNat ((bits.drop 6).take 18)) bits = bits := by
  have hlength : ((bits.drop 6).take 18).length = 18 := by
    rw [List.length_take, List.length_drop]
    omega
  have hnumber := Bits.ofNat_toNat ((bits.drop 6).take 18)
  have hrest : bits.drop 24 = (bits.drop 6).drop 18 := by rw [List.drop_drop]
  rw [hlength] at hnumber
  rw [renumbered, hnumber, hrest, List.take_append_drop, List.take_append_drop]

end Renumbered

/-- Octets are nothing known, or what they are read as is written with their bits and a number. -/
theorem decode_cases (raw : Bytes) :
    decode raw = unknown raw ∨
      24 ≤ (Bits.ofBytes raw).length ∧ (∀ kept, decode raw ≠ unknown kept) ∧
        ∀ sequence, Bits.ofBytes ((decode raw).encode sequence) =
          renumbered sequence (Bits.ofBytes raw) := by
  by_cases hshort : raw.length < headerLength
  · exact .inl (decode_of_short hshort)
  · obtain ⟨head, body, hhead, rfl⟩ := exists_head hshort
    have hbits : (Bits.ofBytes head).length = 24 := by rw [Bits.length_ofBytes, hhead, headerLength]
    rw [decode_append hhead]
    cases hapid : apidIn? head with
    | none => exact .inl rfl
    | some apid =>
        rw [Option.bind_some]
        cases hframe : ofBody? apid body with
        | none => exact .inl rfl
        | some frame =>
            have hbody := body?_of_ofBody? hframe
            rw [Option.getD_some, Bits.ofBytes_append]
            refine .inr ⟨?_, ?_, fun sequence => ?_⟩
            · rw [List.length_append, hbits]
              exact Nat.le_add_right _ _
            · rintro kept rfl
              cases hbody
            · rw [encode_of_body? hbody, Bits.ofBytes_append, ofBytes_header,
                ofNat_code hhead hapid, renumbered, List.take_append_of_le_length (by omega),
                List.drop_left' hbits, List.append_assoc]

/-- Octets come back from what they are read as, under the number that they hold. Those that are
nothing known come back under any number, and the others as they were but for the number. -/
theorem octets_come_back_but_for_the_number (raw : Bytes) :
    (decode raw).encode (Bits.toNat (((Bits.ofBytes raw).drop 6).take 18)) = raw ∧
      (raw.length < headerLength ∨ (∃ kept, decode raw = unknown kept) →
        ∀ sequence, (decode raw).encode sequence = raw) ∧
      ∀ sequence, ((decode raw).encode sequence).length = raw.length ∧
        (Bits.ofBytes ((decode raw).encode sequence)).take 6 = (Bits.ofBytes raw).take 6 ∧
        (Bits.ofBytes ((decode raw).encode sequence)).drop 24 = (Bits.ofBytes raw).drop 24 := by
  rcases decode_cases raw with hunknown | ⟨hlength, hknown, hbits⟩
  · rw [hunknown]
    exact ⟨rfl, fun _ _ => rfl, fun _ => ⟨rfl, rfl, rfl⟩⟩
  · refine ⟨?_, ?_, fun sequence => ⟨?_, ?_, ?_⟩⟩
    · rw [← Bits.ofBytes_inj, hbits, renumbered_own hlength]
    · rintro (hshort | ⟨kept, hkept⟩)
      · rw [Bits.length_ofBytes] at hlength
        unfold headerLength at hshort
        omega
      · exact absurd hkept (hknown kept)
    · have hsame := congrArg List.length (hbits sequence)
      rw [length_renumbered hlength, Bits.length_ofBytes, Bits.length_ofBytes] at hsame
      omega
    · rw [hbits, take_renumbered hlength]
    · rw [hbits, drop_renumbered hlength]

/-- A failure of the file list with number 5 and one octet behind its header, and a header alone. -/
theorem octets_come_back_but_for_the_number_cut :
    let raw : Bytes := [0x46, 0x01, 0x00, 9, 0x15, 0xFF]
    (decode raw).encode 5 = raw ∧
      (Bits.ofBytes ((decode raw).encode 0x3FFFF)).drop 24 = Bits.ofBytes [9, 0x15, 0xFF] ∧
      (decode [0x46, 0x01, 0x00]).encode 5 = [0x46, 0x01, 0x00] := by
  intro raw
  obtain ⟨hraw, -, hnumbers⟩ := octets_come_back_but_for_the_number raw
  obtain ⟨-, hkept, -⟩ := octets_come_back_but_for_the_number [0x46, 0x01, 0x00]
  obtain ⟨-, -, hrest⟩ := hnumbers 0x3FFFF
  exact ⟨hraw, hrest, hkept (.inr ⟨[0x46, 0x01, 0x00], by decide +kernel⟩) 5⟩

end Frame

end GroundLink
