import GroundLink.Bits

/-! # Writing bits

A writer collects bits behind each other, the least significant bit of each value
first. What is written goes into the rest of the last octet, as far as it fits, and
then into new octets; the bits that are still free in the last one are zero.
-/

namespace GroundLink.Telemetry

/-- The octets written so far. The last one may be in use in part. -/
structure BitWriter where
  bytes : Bytes
  bitLength : Nat
  covered : bytes.length = (bitLength + 7) / 8
  bounded : Bytes.toNatLE bytes < Nat.pow 2 bitLength
  deriving DecidableEq

namespace BitWriter

/-- No bits at all. -/
def empty : BitWriter := ⟨[], 0, rfl, by decide⟩

/-- The number that the bits written so far spell. -/
def content (writer : BitWriter) : Nat := Bytes.toNatLE writer.bytes

@[simp] theorem bitLength_empty : empty.bitLength = 0 := rfl

@[simp] theorem content_empty : empty.content = 0 := rfl

/-- The octets, the last of which has room for further bits: if it is full, a new one is begun. -/
def opened (writer : BitWriter) : Bytes :=
  if writer.bitLength % 8 = 0 then writer.bytes ++ [0] else writer.bytes

/-- The octet that is open holds no bits but those that are counted. -/
theorem exists_opened (writer : BitWriter) :
    ∃ full last, writer.opened = full ++ [last] ∧
      writer.bitLength = 8 * full.length + writer.bitLength % 8 ∧
      writer.content = Bytes.toNatLE full + Nat.pow 256 full.length * last.toNat ∧
      last.toNat < Nat.pow 2 (writer.bitLength % 8) := by
  have hcovered := writer.covered
  unfold opened
  split
  next hfull =>
    refine ⟨writer.bytes, 0, rfl, by omega, rfl, ?_⟩
    rw [hfull]
    decide
  next hopen =>
    have hne : writer.bytes ≠ [] := by
      intro hnil
      rw [hnil, List.length_nil] at hcovered
      omega
    -- the bits outside of the last octet are whole octets, so the bound on all is one on it
    obtain ⟨full, last, hbytes⟩ : ∃ full last, writer.bytes = full ++ [last] :=
      ⟨_, _, (List.dropLast_concat_getLast hne).symm⟩
    have hlength : writer.bitLength = 8 * full.length + writer.bitLength % 8 := by
      rw [hbytes, List.length_append, List.length_singleton] at hcovered
      omega
    have hcontent : writer.content =
        Bytes.toNatLE full + Nat.pow 256 full.length * last.toNat := by
      rw [content, hbytes, Bytes.toNatLE_append]
      rfl
    refine ⟨full, last, hbytes, hlength, hcontent, ?_⟩
    have hbounded : writer.content < Nat.pow 2 writer.bitLength := writer.bounded
    rw [hcontent, hlength, Bits.pow_octets] at hbounded
    exact Nat.lt_of_mul_lt_mul_left (Nat.lt_of_le_of_lt (Nat.le_add_left _ _) hbounded)

/-- The octets with a chunk set behind the bits written so far. -/
def pushed (writer : BitWriter) (chunk : UInt8) : Bytes :=
  writer.opened.orLast (chunk <<< UInt8.ofNat (writer.bitLength % 8))

/-- A chunk that fits into the rest of the octet comes behind the bits written before, and takes
nothing but the octet that is open. -/
theorem exists_pushed (writer : BitWriter) {chunk : UInt8} {taken : Nat}
    (hchunk : chunk.toNat < Nat.pow 2 taken) (hroom : writer.bitLength % 8 + taken ≤ 8) :
    (writer.pushed chunk).length = writer.bitLength / 8 + 1 ∧
      Bytes.toNatLE (writer.pushed chunk) =
        writer.content + Nat.pow 2 writer.bitLength * chunk.toNat := by
  obtain ⟨full, last, hopened, hlength, hcontent, hlast⟩ := writer.exists_opened
  have hshift : (UInt8.ofNat (writer.bitLength % 8)).toNat % 8 = writer.bitLength % 8 := by
    rw [UInt8.toNat_ofNat']
    omega
  have hinside : chunk.toNat <<< (writer.bitLength % 8) < 2 ^ 8 := by
    have hfits : chunk.toNat * 2 ^ (writer.bitLength % 8) <
        2 ^ taken * 2 ^ (writer.bitLength % 8) :=
      Nat.mul_lt_mul_of_pos_right hchunk (Nat.two_pow_pos _)
    rw [Nat.shiftLeft_eq]
    rw [← Nat.pow_add] at hfits
    exact Nat.lt_of_lt_of_le hfits (Nat.pow_le_pow_right Nat.zero_lt_two (by omega))
  have hoctet : (last ||| chunk <<< UInt8.ofNat (writer.bitLength % 8)).toNat =
      last.toNat + Nat.pow 2 (writer.bitLength % 8) * chunk.toNat := by
    rw [UInt8.toNat_or, UInt8.toNat_shiftLeft, hshift, Nat.mod_eq_of_lt hinside,
      Bits.or_shiftLeft hlast]
  have hbase := Bits.pow_octets full.length (writer.bitLength % 8)
  rw [← hlength] at hbase
  rw [pushed, hopened, Bytes.orLast_concat]
  constructor
  · rw [List.length_append, List.length_singleton]
    omega
  · rw [Bytes.toNatLE_append, hcontent, hbase, Bytes.toNatLE, hoctet, Bytes.toNatLE, Nat.mul_zero,
      Nat.add_zero, Nat.mul_add, Nat.add_assoc, Nat.mul_assoc]

/-- Appends a chunk of at most eight bits that fits into the rest of one octet. -/
def push (writer : BitWriter) (chunk : UInt8) (taken : Nat) (hchunk : chunk.toNat < Nat.pow 2 taken)
    (hroom : writer.bitLength % 8 + taken ≤ 8) (hpos : 0 < taken) : BitWriter where
  bytes := writer.pushed chunk
  bitLength := writer.bitLength + taken
  covered := by
    rw [(writer.exists_pushed hchunk hroom).1]
    omega
  bounded := by
    rw [(writer.exists_pushed hchunk hroom).2]
    exact Bits.add_mul_lt writer.bounded hchunk

@[simp] theorem bitLength_push (writer : BitWriter) (chunk : UInt8) (taken : Nat)
    (hchunk hroom hpos) :
    (writer.push chunk taken hchunk hroom hpos).bitLength = writer.bitLength + taken := rfl

theorem content_push (writer : BitWriter) (chunk : UInt8) (taken : Nat) (hchunk hroom hpos) :
    (writer.push chunk taken hchunk hroom hpos).content =
      writer.content + Nat.pow 2 writer.bitLength * chunk.toNat :=
  (writer.exists_pushed hchunk hroom).2

/-- The `taken` bits of a value behind its first `done` ones. -/
def chunk (value done taken : Nat) : UInt8 := UInt8.ofNat ((value >>> done) &&& Bits.mask taken)

theorem toNat_chunk (value done : Nat) {taken : Nat} (h : taken ≤ 8) :
    (chunk value done taken).toNat = value / Nat.pow 2 done % Nat.pow 2 taken := by
  have hoctet : value / 2 ^ done % 2 ^ taken < 2 ^ 8 :=
    Nat.lt_of_lt_of_le (Nat.mod_lt _ (Nat.two_pow_pos taken))
      (Nat.pow_le_pow_right Nat.zero_lt_two h)
  rw [chunk, Bits.and_mask (by omega), UInt8.toNat_ofNat', Nat.shiftRight_eq_div_pow]
  exact Nat.mod_eq_of_lt hoctet

theorem toNat_chunk_lt (value done : Nat) {taken : Nat} (h : taken ≤ 8) :
    (chunk value done taken).toNat < Nat.pow 2 taken := by
  rw [toNat_chunk value done h]
  exact Nat.mod_lt _ (Nat.two_pow_pos taken)

/-- Appends the bits of a value from the one at `done` on, up to the one at `count`, one octet after
the other. -/
def writeFrom (writer : BitWriter) (value count done : Nat) : BitWriter :=
  if more : done < count then
    let taken := Bits.inOctet writer.bitLength (count - done)
    have room : writer.bitLength % 8 + taken ≤ 8 := Bits.mod_add_inOctet_le _ _
    have progress : 0 < taken := Bits.inOctet_pos _ (by omega)
    let next := writer.push (chunk value done taken) taken (toNat_chunk_lt value done (by omega))
      room progress
    next.writeFrom value count (done + taken)
  else writer
termination_by count - done

/-- Appends the low `count` bits of a value. Higher bits are ignored. -/
def write (writer : BitWriter) (value count : Nat) : BitWriter := writer.writeFrom value count 0

/-- Chunk by chunk the bits that are missing come behind those written before. -/
theorem writeFrom_eq (writer : BitWriter) (value : Nat) {count done : Nat} (hdone : done ≤ count) :
    (writer.writeFrom value count done).bitLength = writer.bitLength + (count - done) ∧
      (writer.writeFrom value count done).content = writer.content +
        Nat.pow 2 writer.bitLength * (value / Nat.pow 2 done % Nat.pow 2 (count - done)) := by
  -- along the loop: the bits missing to `count` are a chunk and those that the next turns add
  fun_induction writeFrom writer value count done with
  | case1 writer done more taken room progress next ih =>
    have hreach : taken ≤ count - done := Bits.inOctet_le _ _
    have hcount : count - done = taken + (count - (done + taken)) := by omega
    obtain ⟨hlength, hcontent⟩ := ih (by omega)
    have hnext : next.content = writer.content +
        Nat.pow 2 writer.bitLength * (value / Nat.pow 2 done % Nat.pow 2 taken) := by
      rw [content_push, toNat_chunk value done (by omega)]
    have hbits : value / Nat.pow 2 done % Nat.pow 2 (count - done) =
        value / Nat.pow 2 done % Nat.pow 2 taken + Nat.pow 2 taken *
          (value / Nat.pow 2 (done + taken) % Nat.pow 2 (count - (done + taken))) := by
      rw [hcount]
      simp only [Nat.pow_eq]
      rw [Nat.pow_add, Nat.mod_mul, Nat.div_div_eq_div_mul, ← Nat.pow_add]
    have hpow : Nat.pow 2 (writer.bitLength + taken) =
        Nat.pow 2 writer.bitLength * Nat.pow 2 taken := Nat.pow_add _ _ _
    rw [hlength, hcontent, hnext, hbits, bitLength_push, hpow]
    constructor
    · omega
    · rw [Nat.mul_add, Nat.mul_assoc, Nat.add_assoc]
  | case2 writer done more =>
    have hzero : count - done = 0 := by omega
    rw [hzero]
    simp [Nat.mod_one]

@[simp] theorem bitLength_write (writer : BitWriter) (value count : Nat) :
    (writer.write value count).bitLength = writer.bitLength + count :=
  (writer.writeFrom_eq value (Nat.zero_le count)).1

theorem content_write (writer : BitWriter) (value count : Nat) :
    (writer.write value count).content =
      writer.content + Nat.pow 2 writer.bitLength * (value % Nat.pow 2 count) := by
  have hcontent := (writer.writeFrom_eq value (Nat.zero_le count)).2
  rwa [Nat.sub_zero, show Nat.pow 2 0 = 1 from rfl, Nat.div_one] at hcontent

@[simp] theorem length_bytes (writer : BitWriter) :
    writer.bytes.length = (writer.bitLength + 7) / 8 := writer.covered

/-- The octets are those of the number that the bits spell. -/
theorem bytes_eq (writer : BitWriter) :
    writer.bytes = Bytes.ofNatLE ((writer.bitLength + 7) / 8) writer.content := by
  rw [← writer.covered, content, Bytes.ofNatLE_toNatLE]

/-- The bits written so far, in order. -/
def bits (writer : BitWriter) : List Bool := Bits.ofNat writer.bitLength writer.content

@[simp] theorem length_bits (writer : BitWriter) : writer.bits.length = writer.bitLength := by
  simp [bits]

theorem toNat_bits (writer : BitWriter) : Bits.toNat writer.bits = writer.content := by
  rw [bits, Bits.toNat_ofNat]
  exact Nat.mod_eq_of_lt writer.bounded

/-- Nothing but the bits shows in the octets. -/
theorem bytes_eq_of_bits {first second : BitWriter} (h : first.bits = second.bits) :
    first.bytes = second.bytes := by
  have hlength := congrArg List.length h
  rw [length_bits, length_bits] at hlength
  rw [bytes_eq, bytes_eq, ← toNat_bits, ← toNat_bits, h, hlength]

theorem bits_write (writer : BitWriter) (value count : Nat) :
    (writer.write value count).bits = writer.bits ++ Bits.ofNat count value := by
  apply (Bits.toNat_inj (by simp)).mp
  rw [toNat_bits, Bits.toNat_append, toNat_bits, length_bits, Bits.toNat_ofNat, content_write]

/-- The octets hold the bits written so far, filled up with zero bits. -/
theorem ofBytes_bytes (writer : BitWriter) :
    Bits.ofBytes writer.bytes =
      writer.bits ++ List.replicate (8 * writer.bytes.length - writer.bitLength) false := by
  have hzeros : ∀ count, Bits.toNat (List.replicate count false) = 0 := by
    intro count
    induction count with
    | zero => rfl
    | succ count ih => simp [List.replicate_succ, Bits.toNat, ih]
  have hlength := writer.length_bytes
  apply (Bits.toNat_inj (by simp; omega)).mp
  rw [Bits.toNat_append, toNat_bits, hzeros, Bits.toNat_ofBytes, Nat.mul_zero, Nat.add_zero,
    content]

end BitWriter

end GroundLink.Telemetry
