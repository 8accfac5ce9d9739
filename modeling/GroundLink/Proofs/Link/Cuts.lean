import GroundLink.Link.Assembler

/-! # What is cut off

A cut is a stray octet, the header of too long a packet, or a packet with its checksum, right or
wrong. Which of them it is shows in the octets that it takes and in the two behind a header, so that
octets which arrive later never change a decision.
-/

namespace GroundLink.Link

/-- The cuts of a buffer, one constructor for each kind. -/
inductive Cuts : Bytes → Cut → Prop
  /-- An octet that is no header is cut off alone. -/
  | stray (first : UInt8) (rest : Bytes) (hfirst : first ≠ headerOctet) :
      Cuts (first :: rest) ⟨.error (.notHeader first), 1⟩
  /-- A header that announces too much data is cut off alone. -/
  | oversized (low high : UInt8) (rest : Bytes)
      (hlength : maxDataLength < Bytes.toNatLE [low, high]) :
      Cuts (headerOctet :: low :: high :: rest)
        ⟨.error (.lengthTooLarge (Bytes.toNatLE [low, high])), 1⟩
  /-- A packet is cut off whole, whether its checksum is right or not. -/
  | framed (low high : UInt8) (data found rest : Bytes)
      (hlength : data.length = Bytes.toNatLE [low, high]) (hmax : data.length ≤ maxDataLength)
      (hfound : found.length = 4) :
      Cuts (headerOctet :: low :: high :: (data ++ (found ++ rest)))
        ⟨if checksumMatches data (Bytes.toNatLE found) then .ok ⟨data⟩
          else .error .checksumMismatch, frameLength + data.length⟩

variable {buffer : Bytes} {cut : Cut}

theorem cuts_of_cut? (h : cut? buffer = some cut) : Cuts buffer cut := by
  unfold cut? at h
  split at h
  next => exact nomatch h
  next first rest =>
    split at h
    next hfirst =>
      cases h
      exact .stray first rest hfirst
    next hfirst =>
      obtain rfl : first = headerOctet := Decidable.not_not.mp hfirst
      split at h
      next low high body =>
        dsimp only at h
        split at h
        next hlength =>
          cases h
          exact .oversized low high body hlength
        next hlength =>
          split at h
          next => exact nomatch h
          next henough =>
            cases h
            have hdata : (body.take (Bytes.toNatLE [low, high])).length =
                Bytes.toNatLE [low, high] := by
              rw [List.length_take]
              omega
            have hfound : ((body.drop (Bytes.toNatLE [low, high])).take 4).length = 4 := by
              rw [List.length_take, List.length_drop]
              omega
            have hframed := Cuts.framed low high (body.take (Bytes.toNatLE [low, high]))
              ((body.drop (Bytes.toNatLE [low, high])).take 4)
              ((body.drop (Bytes.toNatLE [low, high])).drop 4) hdata (by omega) hfound
            rwa [List.take_append_drop, List.take_append_drop, hdata] at hframed
      next => exact nomatch h

theorem cut?_of_cuts (h : Cuts buffer cut) : cut? buffer = some cut := by
  cases h with
  | stray first rest hfirst => simp only [cut?, if_pos hfirst]
  | oversized low high rest hlength =>
      simp only [cut?, ne_eq, not_true_eq_false, if_false, gt_iff_lt, if_pos hlength]
  | framed low high data found rest hlength hmax hfound =>
      have henough : ¬ (data ++ (found ++ rest)).length < data.length + 4 := by
        simp only [List.length_append]
        omega
      simp only [cut?, ne_eq, not_true_eq_false, if_false, gt_iff_lt, ← hlength,
        if_neg (Nat.not_lt.mpr hmax), if_neg henough, List.take_left, List.drop_left,
        List.take_left' hfound]

/-- A buffer has one cut at most, of one of these kinds. -/
theorem cut?_eq_some_iff : cut? buffer = some cut ↔ Cuts buffer cut := ⟨cuts_of_cut?, cut?_of_cuts⟩

/-- What arrives later does not change a cut. -/
theorem cut?_append (h : cut? buffer = some cut) (later : Bytes) :
    cut? (buffer ++ later) = some cut := by
  rw [cut?_eq_some_iff] at h ⊢
  cases h with
  | stray first rest hfirst => exact .stray first (rest ++ later) hfirst
  | oversized low high rest hlength => exact .oversized low high (rest ++ later) hlength
  | framed low high data found rest hlength hmax hfound =>
      have hframed := Cuts.framed low high data found (rest ++ later) hlength hmax hfound
      simpa using hframed

namespace Assembler

variable {assembler : Assembler}

theorem next_of_none (h : cut? assembler.buffer = none) : assembler.next = (none, assembler) := by
  simp only [next, h]

theorem next_of_some (h : cut? assembler.buffer = some cut) :
    assembler.next = (some cut.outcome, ⟨assembler.buffer.drop cut.length⟩) := by
  simp only [next, h]

theorem drain_of_none (h : cut? assembler.buffer = none) : assembler.drain = ([], assembler) := by
  rw [drain]
  split
  next => rfl
  next heq => cases h.symm.trans heq

theorem drain_of_some (h : cut? assembler.buffer = some cut) :
    assembler.drain =
      (cut.outcome :: (drain ⟨assembler.buffer.drop cut.length⟩).1,
        (drain ⟨assembler.buffer.drop cut.length⟩).2) := by
  rw [drain]
  split
  next heq => cases h.symm.trans heq
  next other heq =>
    obtain rfl := Option.some_inj.mp (h.symm.trans heq)
    rfl

end Assembler

end GroundLink.Link
