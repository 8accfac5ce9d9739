import GroundLink.Proofs.Link.Noise

/-! # Reading packets

Reading a stream finds what an assembler would cut off its front. It finds a packet exactly where
the stream begins with one as it is written, with no more data than the maximum, and stops behind
its checksum, whatever follows.
-/

namespace GroundLink.Link

/-- How many octets reading takes for a cut. The length of too long a packet goes with its
header. -/
def Cut.taken (cut : Cut) : Nat :=
  match cut.outcome with
  | .error (.lengthTooLarge _) => 3
  | _ => cut.length

/-- Data are framed with the two octets that spell their length. -/
theorem framed_eq {low high : UInt8} {data : Bytes}
    (hlength : data.length = Bytes.toNatLE [low, high]) (found : Bytes) :
    framed data found = headerOctet :: low :: high :: (data ++ found) := by
  have hoctets : Bytes.ofNatLE 2 data.length = [low, high] := by
    rw [hlength]
    exact Bytes.ofNatLE_toNatLE [low, high]
  simp [framed, hoctets]

namespace Packet

variable {stream rest : Bytes} {packet : Packet}

/-- Reading finds what an assembler would cut off. -/
theorem read_of_some {cut : Cut} (h : cut? stream = some cut) :
    read stream = (cut.outcome, stream.drop cut.taken) := by
  cases cut?_eq_some_iff.mp h with
  | stray first rest hfirst =>
      simp only [read, if_pos hfirst, Cut.taken, List.drop_succ_cons, List.drop_zero]
  | oversized low high rest hlength =>
      simp only [read, ne_eq, not_true_eq_false, if_false, gt_iff_lt, if_pos hlength, Cut.taken,
        List.drop_succ_cons, List.drop_zero]
  | framed low high data found rest hlength hmax hfound =>
      have hcomplete : ¬ (data ++ (found ++ rest)).length < data.length + 4 := by
        simp only [List.length_append]
        omega
      have hrest : (data ++ (found ++ rest)).drop (data.length + 4) = rest := by
        rw [← List.drop_drop, List.drop_left, List.drop_left' hfound]
      have htaken : frameLength + data.length = data.length + 4 + 3 := by
        unfold frameLength
        omega
      simp only [read, ne_eq, not_true_eq_false, if_false, gt_iff_lt, ← hlength,
        if_neg (Nat.not_lt.mpr hmax), if_neg hcomplete, List.take_left, List.drop_left,
        List.take_left' hfound, hrest]
      split <;> simp only [Cut.taken, htaken, List.drop_succ_cons, hrest]

/-- Where an assembler would wait for more octets, a stream ends too soon. -/
theorem read_of_none (h : cut? stream = none) : read stream = (.error .endOfStream, []) := by
  cases stream with
  | nil => rfl
  | cons first rest =>
      simp only [cut?, read] at h ⊢
      split at h
      next => cases h
      next hfirst =>
        rw [if_neg hfirst]
        rcases rest with _ | ⟨low, _ | ⟨high, body⟩⟩
        · rfl
        · rfl
        · dsimp only at h ⊢
          split at h
          next => cases h
          next hlength =>
            rw [if_neg hlength]
            split at h
            next hshort => rw [if_pos hshort]
            next => cases h

theorem read_bytes (h : packet.data.length ≤ maxDataLength) (rest : Bytes) :
    read (packet.bytes ++ rest) = (.ok packet, rest) := by
  have hcut := cut?_framed h (Bytes.length_ofNatLE 4 packet.checksum) rest
  rw [if_pos (checksumMatches_iff.mpr (toNatLE_ofNatLE_checksum packet)),
    ← packet.bytes_eq_framed] at hcut
  rw [read_of_some hcut]
  exact congrArg (Prod.mk _) List.drop_left

theorem ofBytes_bytes (h : packet.data.length ≤ maxDataLength) :
    ofBytes packet.bytes = .ok packet := by
  have hread := read_bytes h []
  rw [List.append_nil] at hread
  rw [ofBytes, hread]

theorem bytes_eq_framed_of_matches {data found : Bytes} (hfound : found.length = 4)
    (hsum : checksumMatches data (Bytes.toNatLE found) = true) :
    bytes ⟨data⟩ = framed data found := by
  have hchecksum : Bytes.ofNatLE 4 (checksum ⟨data⟩) = found := by
    rw [checksum, ← checksumMatches_iff.mp hsum, ← hfound, Bytes.ofNatLE_toNatLE]
  rw [bytes_eq_framed, hchecksum]

/-- What is read as a packet is the packet as it is written. -/
theorem eq_bytes_of_read (h : read stream = (.ok packet, rest)) :
    packet.data.length ≤ maxDataLength ∧ stream = packet.bytes ++ rest := by
  cases hcut : cut? stream with
  | none =>
      rw [read_of_none hcut] at h
      cases h
  | some cut =>
      have houtcome : cut.outcome = .ok packet := by
        rw [read_of_some hcut] at h
        exact congrArg Prod.fst h
      cases cut?_eq_some_iff.mp hcut with
      | stray => cases houtcome
      | oversized => cases houtcome
      | framed low high data found behind hlength hmax hfound =>
          dsimp only at houtcome
          split at houtcome
          next hsum =>
            cases houtcome
            have hstream : headerOctet :: low :: high :: (data ++ (found ++ behind)) =
                bytes ⟨data⟩ ++ behind := by
              rw [bytes_eq_framed_of_matches hfound hsum, framed_eq hlength]
              simp
            -- what follows the packet is told by reading it back
            rw [hstream, read_bytes hmax] at h
            cases h
            exact ⟨hmax, hstream⟩
          next => cases houtcome

end Packet

end GroundLink.Link
