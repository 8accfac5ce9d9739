import GroundLink.Proofs.Link.Packet
import Mathlib.Algebra.BigOperators.Group.List.Basic

/-! # Every octet of a stream

Asking an assembler for packets takes a stream apart. Every result has its share of the octets, the
shares stand one behind the other, and behind them stands the start of a packet that is not
complete. No share is empty, so that the asking ends, and no packet is longer than the longest, so
that what waits is bounded.
-/

namespace GroundLink.Link

/-- The octets that a result takes off a stream in which certain octets follow. Those behind the
header of an oversized packet have been looked at, and remain. -/
inductive Spends (behind : Bytes) : Except LinkError Packet → Bytes → Prop
  | intact (packet : Packet) (hmax : packet.data.length ≤ maxDataLength) :
      Spends behind (.ok packet) packet.bytes
  | stray (octet : UInt8) (hoctet : octet ≠ headerOctet) :
      Spends behind (.error (.notHeader octet)) [octet]
  | oversized (low high : UInt8) (rest : Bytes) (hbehind : behind = low :: high :: rest)
      (hlength : maxDataLength < Bytes.toNatLE [low, high]) :
      Spends behind (.error (.lengthTooLarge (Bytes.toNatLE [low, high]))) [headerOctet]
  | damaged (data found : Bytes) (hmax : data.length ≤ maxDataLength) (hfound : found.length = 4)
      (hsum : Bytes.toNatLE found ≠ (checksum data).toNat) :
      Spends behind (.error .checksumMismatch) (framed data found)

theorem Spends.length_pos {behind span : Bytes} {outcome : Except LinkError Packet}
    (h : Spends behind outcome span) : 0 < span.length := by
  cases h with
  | intact packet hmax => exact Nat.succ_pos _
  | stray octet hoctet => exact Nat.one_pos
  | oversized low high rest hbehind hlength => exact Nat.one_pos
  | damaged data found hmax hfound hsum => exact Nat.succ_pos _

/-- A cut takes the octets that belong to its outcome. -/
theorem spends_of_cuts {buffer : Bytes} {cut : Cut} (h : Cuts buffer cut) :
    Spends (buffer.drop cut.length) cut.outcome (buffer.take cut.length) := by
  cases h with
  | stray first rest hfirst => exact .stray first hfirst
  | oversized low high rest hlength => exact .oversized low high rest rfl hlength
  | framed low high data found rest hlength hmax hfound =>
      have hspan : headerOctet :: low :: high :: (data ++ (found ++ rest)) =
          framed data found ++ rest := by
        rw [framed_eq hlength]
        simp
      rw [hspan, ← length_framed data hfound, List.take_left]
      dsimp only
      split
      next hsum =>
        rw [← Packet.bytes_eq_framed_of_matches hfound hsum]
        exact .intact ⟨data⟩ hmax
      next hsum => exact .damaged data found hmax hfound (mt checksumMatches_iff.mpr hsum)

/-- What waits for more octets begins with a header, and is shorter than the longest packet. -/
theorem waits_of_cut? {buffer : Bytes} (h : cut? buffer = none) :
    (buffer = [] ∨ ∃ rest, buffer = headerOctet :: rest) ∧ buffer.length < maxPacketLength := by
  unfold cut? at h
  split at h
  next => exact ⟨.inl rfl, by decide⟩
  next first rest =>
    split at h
    next => exact nomatch h
    next hfirst =>
      obtain rfl : first = headerOctet := Decidable.not_not.mp hfirst
      refine ⟨.inr ⟨rest, rfl⟩, ?_⟩
      unfold maxPacketLength frameLength maxDataLength
      split at h
      next low high body =>
        dsimp only at h
        split at h
        next => exact nomatch h
        next hlength =>
          split at h
          next hshort =>
            unfold maxDataLength at hlength
            simp only [List.length_cons]
            omega
          next => exact nomatch h
      next hshort =>
        rcases rest with _ | ⟨low, _ | ⟨high, body⟩⟩
        · simp
        · simp
        · exact absurd rfl (hshort low high body)

/-- A result and the octets that it has taken. -/
structure Share where
  outcome : Except LinkError Packet
  span : Bytes

/-- The octets of some shares, one share behind the other. -/
def spans (shares : List Share) : Bytes := shares.flatMap Share.span

@[simp] theorem spans_nil : spans [] = [] := rfl

@[simp] theorem spans_cons (share : Share) (shares : List Share) :
    spans (share :: shares) = share.span ++ spans shares := List.flatMap_cons

theorem length_le_spans {shares : List Share} (h : ∀ share ∈ shares, 0 < share.span.length) :
    shares.length ≤ (spans shares).length := by
  have hsum := (shares.map fun share => share.span.length).length_le_sum_of_one_le
    (List.forall_mem_map.mpr h)
  rwa [List.length_map, ← List.length_flatMap] at hsum

namespace Assembler

/-- A buffer is taken apart into these shares, call by call, and what is left waits. -/
structure TakenApart (buffer : Bytes) (shares : List Share) (left : Bytes) : Prop where
  whole : buffer = spans shares ++ left
  calls : ∀ count ≤ shares.length,
    feed ⟨buffer⟩ (List.replicate count .next) =
      ((shares.take count).map Share.outcome, ⟨spans (shares.drop count) ++ left⟩)
  spent : ∀ earlier share later, shares = earlier ++ share :: later →
    Spends (spans later ++ left) share.outcome share.span
  waits : cut? left = none

namespace TakenApart

variable {buffer left : Bytes} {shares : List Share}

theorem of_none (h : cut? buffer = none) : TakenApart buffer [] buffer where
  whole := rfl
  calls count hcount := by
    rw [Nat.le_zero.mp hcount]
    rfl
  spent earlier share later hsplit := by simp at hsplit
  waits := h

/-- The share of a cut stands in front of the others. -/
theorem cons {cut : Cut} (hcut : cut? buffer = some cut)
    (h : TakenApart (buffer.drop cut.length) shares left) :
    TakenApart buffer (⟨cut.outcome, buffer.take cut.length⟩ :: shares) left := by
  have hwhole : buffer = spans (⟨cut.outcome, buffer.take cut.length⟩ :: shares) ++ left := by
    rw [spans_cons, List.append_assoc, ← h.whole, List.take_append_drop]
  refine ⟨hwhole, ?_, ?_, h.waits⟩
  · intro count hcount
    cases count with
    | zero =>
        rw [List.drop_zero, ← hwhole]
        rfl
    | succ count =>
        rw [List.replicate_succ, feed, next_of_some hcut,
          h.calls count (Nat.le_of_succ_le_succ hcount)]
        rfl
  · intro earlier share later hsplit
    cases earlier with
    | nil =>
        obtain ⟨rfl, rfl⟩ := List.cons.inj hsplit
        rw [← h.whole]
        exact spends_of_cuts (cuts_of_cut? hcut)
    | cons first earlier => exact h.spent earlier share later (List.cons.inj hsplit).2

theorem length_le (h : TakenApart buffer shares left) : shares.length ≤ buffer.length := by
  have hpos : ∀ share ∈ shares, 0 < share.span.length := by
    intro share hshare
    obtain ⟨earlier, later, hsplit⟩ := List.append_of_mem hshare
    exact (h.spent earlier share later hsplit).length_pos
  have hspans := length_le_spans hpos
  rw [h.whole, List.length_append]
  omega

theorem drain_eq (h : TakenApart buffer shares left) :
    drain ⟨buffer⟩ = (shares.map Share.outcome, ⟨left⟩) := by
  have hall := h.calls shares.length (Nat.le_refl _)
  rw [List.take_length, List.drop_length, spans_nil, List.nil_append] at hall
  have hextend := drain_extend_arrived ⟨buffer⟩ (List.replicate shares.length .next)
  rw [hall, drain_of_none h.waits, arrived_replicate_next, extend, List.append_nil,
    List.append_nil] at hextend
  exact hextend

end TakenApart

theorem exists_takenApart (assembler : Assembler) :
    ∃ shares left, TakenApart assembler.buffer shares left := by
  induction assembler using drain.induct with
  | case1 assembler hcut => exact ⟨[], assembler.buffer, .of_none hcut⟩
  | case2 assembler cut hcut hlength others last hrest ih =>
      obtain ⟨shares, left, h⟩ := ih
      exact ⟨_, left, h.cons hcut⟩

end Assembler

/-- Whoever feeds a stream to an assembler and asks until more octets are needed gets no more
results than there are octets. The stream is the shares of these results, in order, and what is
left; each call takes just the share of its result. An intact packet takes its own octets, a stray
octet itself, an oversized header one octet in front of the two that announce its length, and a
wrong checksum header, length, data and checksum. What is left is nothing or begins with a header,
and is shorter than the longest packet. So it is, too, when the stream arrives in pieces. -/
theorem every_octet_is_accounted_for (stream : Bytes) :
    ∃ shares left,
      stream = spans shares ++ left ∧
      (∀ count ≤ shares.length,
        Assembler.empty.feed (.extend stream :: List.replicate count .next) =
          ((shares.take count).map Share.outcome, ⟨spans (shares.drop count) ++ left⟩)) ∧
      Assembler.next ⟨left⟩ = (none, ⟨left⟩) ∧
      shares.length ≤ stream.length ∧
      (∀ earlier share later, shares = earlier ++ share :: later →
        Spends (spans later ++ left) share.outcome share.span) ∧
      (left = [] ∨ ∃ rest, left = headerOctet :: rest) ∧
      left.length < maxPacketLength ∧
      ∀ calls, arrived calls = stream → (Assembler.empty.feed calls).2.next.1 = none →
        Assembler.empty.feed calls = (shares.map Share.outcome, ⟨left⟩) := by
  obtain ⟨shares, left, h⟩ := Assembler.exists_takenApart ⟨stream⟩
  obtain ⟨hhead, hshort⟩ := waits_of_cut? h.waits
  refine ⟨shares, left, h.whole, h.calls, Assembler.next_of_none h.waits, h.length_le, h.spent,
    hhead, hshort, ?_⟩
  intro calls harrived hended
  rw [← Assembler.drain_extend_of_feed hended, harrived]
  exact h.drain_eq

/-- A stray octet, a packet, an oversized header, a packet with a wrong checksum and the start of
another packet arrive in two pieces. -/
theorem every_octet_is_accounted_for_mixed :
    let noise : Bytes := [headerOctet, 0xFF, 0x08]
    let stream : Bytes := 7 :: (⟨[1, 2]⟩ : Packet).bytes ++ noise ++
      framed [headerOctet, 2] [0, 0, 0, headerOctet] ++ [headerOctet, 4, 0, 1]
    let calls : List AssemblerCall :=
      .extend (stream.take 12) :: .next :: .next :: .next :: .extend (stream.drop 12) ::
        List.replicate 4 .next
    ∃ shares,
      stream = spans shares ++ [headerOctet, 4, 0, 1] ∧ shares.length = 6 ∧
      (shares.map Share.outcome).filterMap Except.toOption = [⟨[1, 2]⟩] ∧
      (∀ earlier share later, shares = earlier ++ share :: later →
        Spends (spans later ++ [headerOctet, 4, 0, 1]) share.outcome share.span) ∧
      Assembler.empty.feed calls = (shares.map Share.outcome, ⟨[headerOctet, 4, 0, 1]⟩) := by
  intro noise stream calls
  obtain ⟨shares, left, hwhole, -, -, -, hspent, -, -, hcalls⟩ :=
    every_octet_is_accounted_for stream
  have hfeed := hcalls calls (by decide +kernel) (by decide +kernel)
  obtain rfl : left = [headerOctet, 4, 0, 1] := by
    have hleft : (Assembler.empty.feed calls).2 = ⟨[headerOctet, 4, 0, 1]⟩ := by decide +kernel
    rw [hfeed] at hleft
    exact congrArg Assembler.buffer hleft
  have houtcomes : shares.map Share.outcome = (Assembler.empty.feed calls).1 := by rw [hfeed]
  refine ⟨shares, hwhole, ?_, ?_, hspent, hfeed⟩
  · rw [← List.length_map Share.outcome, houtcomes]
    decide +kernel
  · rw [houtcomes]
    decide +kernel

end GroundLink.Link
