import GroundLink.Proofs.Link.Arrival

/-! # Packets among noise

Between its packets a stream may hold stray octets, packets that were damaged on the way, and
headers that announce more data than a packet carries. Every such piece is cut off with exactly the
octets that belong to it, whatever follows and whatever its data look like, so that the packets
around it are found.
-/

namespace GroundLink.Link

/-- Data behind a header and their length, with four octets in the place of the checksum. -/
def framed (data found : Bytes) : Bytes :=
  headerOctet :: (Bytes.ofNatLE 2 data.length ++ data ++ found)

theorem Packet.bytes_eq_framed (packet : Packet) :
    packet.bytes = framed packet.data (Bytes.ofNatLE 4 packet.checksum) := rfl

theorem length_framed (data : Bytes) {found : Bytes} (hfound : found.length = 4) :
    (framed data found).length = frameLength + data.length := by
  simp only [framed, List.length_cons, List.length_append, Bytes.length_ofNatLE, hfound,
    frameLength]
  omega

/-- Framed data are cut off whole, and the four octets behind them decide what they are. -/
theorem cut?_framed {data found : Bytes} (hmax : data.length ≤ maxDataLength)
    (hfound : found.length = 4) (rest : Bytes) :
    cut? (framed data found ++ rest) =
      some ⟨if checksumMatches data (Bytes.toNatLE found) then .ok ⟨data⟩
        else .error .checksumMismatch, (framed data found).length⟩ := by
  have hlength : data.length = Bytes.toNatLE (Bytes.ofNatLE 2 data.length) := by
    rw [Bytes.toNatLE_ofNatLE, Nat.mod_eq_of_lt (Nat.lt_of_le_of_lt hmax (by decide))]
  rw [length_framed data hfound, cut?_eq_some_iff]
  have hframed := Cuts.framed (UInt8.ofNat data.length) (UInt8.ofNat (data.length / 256)) data found
    rest hlength hmax hfound
  simpa [framed, Bytes.ofNatLE] using hframed

theorem checksumMatches_iff {data : Bytes} {found : Nat} :
    checksumMatches data found = true ↔ found = (checksum data).toNat := by
  rw [checksumMatches, beq_iff_eq, eq_comm]

theorem toNatLE_ofNatLE_checksum (packet : Packet) :
    Bytes.toNatLE (Bytes.ofNatLE 4 packet.checksum) = (checksum packet.data).toNat := by
  rw [Bytes.toNatLE_ofNatLE]
  exact Nat.mod_eq_of_lt (checksum packet.data).isLt

/-- A piece of a stream: a packet, or noise of one of three kinds. -/
inductive Segment where
  /-- An octet that is no header. -/
  | stray (octet : UInt8) (hoctet : octet ≠ headerOctet)
  | intact (packet : Packet) (hmax : packet.data.length ≤ maxDataLength)
  /-- Data with a wrong checksum. -/
  | damaged (data found : Bytes) (hmax : data.length ≤ maxDataLength) (hfound : found.length = 4)
      (hsum : Bytes.toNatLE found ≠ (checksum data).toNat)
  /-- A header and too large a length, in whose octets no other packet can begin. -/
  | oversized (low high : UInt8) (hlow : low ≠ headerOctet) (hhigh : high ≠ headerOctet)
      (hlength : maxDataLength < Bytes.toNatLE [low, high])

namespace Segment

/-- The segment as it crosses the link. -/
def bytes : Segment → Bytes
  | stray octet _ => [octet]
  | intact packet _ => packet.bytes
  | damaged data found _ _ _ => framed data found
  | oversized low high _ _ _ => [headerOctet, low, high]

/-- What is made of the segment. The length of an oversized one is left behind as two stray
octets. -/
def outcomes : Segment → List (Except LinkError Packet)
  | stray octet _ => [.error (.notHeader octet)]
  | intact packet _ => [.ok packet]
  | damaged _ _ _ _ _ => [.error .checksumMismatch]
  | oversized low high _ _ _ =>
      [.error (.lengthTooLarge (Bytes.toNatLE [low, high])), .error (.notHeader low),
        .error (.notHeader high)]

def packet? : Segment → Option Packet
  | intact packet _ => some packet
  | _ => none

theorem filterMap_outcomes (segment : Segment) :
    segment.outcomes.filterMap Except.toOption = segment.packet?.toList := by
  cases segment <;> rfl

end Segment

/-- The octets that segments bring, one segment behind the other. -/
def segmentBytes (segments : List Segment) : Bytes := segments.flatMap Segment.bytes

/-- What is made of segments, in order. -/
def segmentOutcomes (segments : List Segment) : List (Except LinkError Packet) :=
  segments.flatMap Segment.outcomes

/-- Only intact segments come out as packets. -/
theorem filterMap_segmentOutcomes (segments : List Segment) :
    (segmentOutcomes segments).filterMap Except.toOption =
      segments.filterMap Segment.packet? := by
  induction segments with
  | nil => rfl
  | cons segment rest ih =>
      have hhead := segment.filterMap_outcomes
      rw [segmentOutcomes, List.flatMap_cons, List.filterMap_append, hhead, List.filterMap_cons,
        ← ih, segmentOutcomes]
      cases segment.packet? <;> rfl

namespace Assembler

/-- A cut at the front of the buffer is the first of all, and the others are made of the rest. -/
theorem drain_append_of_cut? (front : Bytes) {rest : Bytes} {outcome : Except LinkError Packet}
    (h : cut? (front ++ rest) = some ⟨outcome, front.length⟩) :
    drain ⟨front ++ rest⟩ = (outcome :: (drain ⟨rest⟩).1, (drain ⟨rest⟩).2) := by
  rw [drain_of_some h, List.drop_left]

theorem drain_stray {octet : UInt8} (hoctet : octet ≠ headerOctet) (rest : Bytes) :
    drain ⟨octet :: rest⟩ =
      (.error (.notHeader octet) :: (drain ⟨rest⟩).1, (drain ⟨rest⟩).2) :=
  drain_append_of_cut? [octet] (cut?_of_cuts (.stray octet rest hoctet))

theorem drain_segment (segment : Segment) (rest : Bytes) :
    drain ⟨segment.bytes ++ rest⟩ = (segment.outcomes ++ (drain ⟨rest⟩).1, (drain ⟨rest⟩).2) := by
  cases segment with
  | stray octet hoctet => exact drain_stray hoctet rest
  | intact packet hmax =>
      apply drain_append_of_cut?
      rw [Segment.bytes, packet.bytes_eq_framed, cut?_framed hmax (Bytes.length_ofNatLE 4 _),
        if_pos (checksumMatches_iff.mpr (toNatLE_ofNatLE_checksum packet))]
  | damaged data found hmax hfound hsum =>
      apply drain_append_of_cut?
      rw [Segment.bytes, cut?_framed hmax hfound, if_neg (mt checksumMatches_iff.mp hsum)]
  | oversized low high hlow hhigh hlength =>
      -- the header goes alone, and the two octets of the length are stray then
      have hheader := drain_append_of_cut? [headerOctet]
        (cut?_of_cuts (.oversized low high rest hlength))
      rw [drain_stray hlow, drain_stray hhigh] at hheader
      exact hheader

/-- Whatever follows them, segments are cut off one after the other. -/
theorem drain_segments (segments : List Segment) (rest : Bytes) :
    drain ⟨segmentBytes segments ++ rest⟩ =
      (segmentOutcomes segments ++ (drain ⟨rest⟩).1, (drain ⟨rest⟩).2) := by
  induction segments with
  | nil => rfl
  | cons segment others ih =>
      rw [segmentBytes, List.flatMap_cons, ← segmentBytes, List.append_assoc, drain_segment, ih]
      simp only [segmentOutcomes, List.flatMap_cons, List.append_assoc]

theorem drain_empty : Assembler.empty.drain = ([], .empty) := drain_of_none rfl

end Assembler

/-- A stream of packets with noise between them is taken apart into just these, in order, and
nothing is left: the packets that come out are the intact ones, each once, whatever octets they
carry. So it is, too, when the stream arrives in pieces and packets are asked for in between. -/
theorem packets_are_found_among_noise (segments : List Segment) :
    (Assembler.empty.extend (segmentBytes segments)).drain =
        (segmentOutcomes segments, .empty) ∧
      (segmentOutcomes segments).filterMap Except.toOption =
        segments.filterMap Segment.packet? ∧
      ∀ calls, arrived calls = segmentBytes segments →
        (Assembler.empty.feed calls).2.next.1 = none →
        Assembler.empty.feed calls = (segmentOutcomes segments, .empty) := by
  have hdrain : (Assembler.empty.extend (segmentBytes segments)).drain =
      (segmentOutcomes segments, .empty) := by
    have hsegments := Assembler.drain_segments segments []
    rw [List.append_nil] at hsegments
    change Assembler.drain ⟨segmentBytes segments⟩ = _
    rw [hsegments, ← Assembler.empty, Assembler.drain_empty, List.append_nil]
  refine ⟨hdrain, filterMap_segmentOutcomes segments, ?_⟩
  intro calls harrived hended
  rw [← Assembler.drain_extend_of_feed hended, harrived, hdrain]

/-- Noise of all kinds stands around two packets, the first of which carries a whole packet as its
data, and the stream is cut inside this packet. -/
theorem packets_are_found_among_noise_cut :
    let inner : Packet := ⟨(⟨[1]⟩ : Packet).bytes⟩
    let last : Packet := ⟨[headerOctet]⟩
    let segments : List Segment :=
      [.stray 0x42 (by decide), .intact inner (by decide), .oversized 0xFF 0x08 (by decide)
          (by decide) (by decide), .damaged [headerOctet, 2] [0, 0, 0, headerOctet] (by decide) rfl
          (by decide +kernel), .intact last (by decide)]
    let stream := segmentBytes segments
    (Assembler.empty.extend stream).drain =
        ([.error (.notHeader 0x42), .ok inner, .error (.lengthTooLarge 2303),
          .error (.notHeader 0xFF), .error (.notHeader 8), .error .checksumMismatch, .ok last],
          .empty) ∧
      Assembler.empty.feed ([.extend (stream.take 9), .next, .next, .extend (stream.drop 9)] ++
          List.replicate 6 .next) =
        (segmentOutcomes segments, .empty) := by
  intro inner last segments stream
  obtain ⟨hdrain, -, hfeed⟩ := packets_are_found_among_noise segments
  exact ⟨hdrain, hfeed _ (by decide +kernel) (by decide +kernel)⟩

end GroundLink.Link
