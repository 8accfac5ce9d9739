import GroundLink.Proofs.Telemetry.Cursor

/-! # Writing as adding bits to a list

A writer is handed one value after the other. Its octets are the low bits of all of them in one
list, filled up with zero bits, and how the bits came in groups does not show. Read in the same
groups they give the values back, as far as these had bits written.
-/

namespace GroundLink.Telemetry

/-- A value and how many of its low bits are to be written. -/
structure BitWrite where
  value : Nat
  count : Nat
  deriving Repr, DecidableEq

namespace BitWrite

/-- The bits that are written, the least significant one first. -/
def bits (write : BitWrite) : List Bool := Bits.ofNat write.count write.value

/-- What is left of the value. -/
def written (write : BitWrite) : Nat := write.value % 2 ^ write.count

end BitWrite

namespace BitWriter

/-- Writes one value behind the other. -/
def writeAll (writer : BitWriter) (writes : List BitWrite) : BitWriter :=
  writes.foldl (fun writer write => writer.write write.value write.count) writer

variable (writer : BitWriter)

theorem writeAll_cons (write : BitWrite) (rest : List BitWrite) :
    writer.writeAll (write :: rest) = (writer.write write.value write.count).writeAll rest := rfl

theorem bitLength_writeAll (writes : List BitWrite) :
    (writer.writeAll writes).bitLength =
      writer.bitLength + (writes.map BitWrite.count).sum := by
  induction writes generalizing writer with
  | nil => rfl
  | cons write rest ih =>
      rw [writeAll_cons, ih, bitLength_write, List.map_cons, List.sum_cons, Nat.add_assoc]

theorem bits_writeAll (writes : List BitWrite) :
    (writer.writeAll writes).bits = writer.bits ++ writes.flatMap BitWrite.bits := by
  induction writes generalizing writer with
  | nil => exact (List.append_nil _).symm
  | cons write rest ih =>
      rw [writeAll_cons, ih, bits_write, List.flatMap_cons, List.append_assoc]
      rfl

end BitWriter

namespace BitCursor

/-- Bits that are ahead are read in the groups in which they were written, whatever follows. -/
theorem performAll_writes {writes : List BitWrite} (hcounts : ∀ write ∈ writes, write.count ≤ 64)
    {cursor : BitCursor} {rest : List Bool}
    (hahead : cursor.ahead = writes.flatMap BitWrite.bits ++ rest) :
    ∃ last, cursor.performAll (writes.map fun write => .read write.count) =
        (writes.map fun write => .ok (some write.written), last) ∧
      cursor.skip (writes.map BitWrite.count).sum = .ok last := by
  induction writes generalizing cursor with
  | nil => exact ⟨cursor, rfl, cursor.skip_zero⟩
  | cons write others ih =>
      obtain ⟨hwrite, hothers⟩ := List.forall_mem_cons.mp hcounts
      have hbits : write.bits.length = write.count := Bits.length_ofNat _ _
      rw [List.flatMap_cons, List.append_assoc] at hahead
      have hinside : write.count ≤ cursor.remaining := by
        rw [← length_ahead, hahead, List.length_append, hbits]
        omega
      obtain ⟨next, hnext⟩ := exists_skip hinside
      have hpeek : cursor.peek write.count = write.written := by
        rw [peek, hahead, List.take_left' hbits]
        exact Bits.toNat_ofNat _ _
      have hnextAhead : next.ahead = others.flatMap BitWrite.bits ++ rest := by
        rw [ahead_skip hnext, hahead, List.drop_left' hbits]
      obtain ⟨last, hlast, hskip⟩ := ih hothers hnextAhead
      refine ⟨last, ?_, ?_⟩
      · simp only [List.map_cons, performAll, perform, read_of_skip hnext hwrite, hpeek, hlast]
      · exact skip_add hnext hskip

end BitCursor

/-- Values written one behind the other, each with up to 64 of its low bits, make one list of bits,
which the octets hold with the fewest zero bits behind it. So the values come back, cut to the bits
written, when they are read in the same groups; and other groups of the same bits make the same
octets. -/
theorem writer_adds_bits_to_list (writes : List BitWrite)
    (hcounts : ∀ write ∈ writes, write.count ≤ 64) :
    let writer := BitWriter.empty.writeAll writes
    writer.bitLength = (writes.map BitWrite.count).sum ∧
      writer.bytes.length = (writer.bitLength + 7) / 8 ∧
      Bits.ofBytes writer.bytes = writes.flatMap BitWrite.bits ++
        List.replicate (8 * writer.bytes.length - writer.bitLength) false ∧
      (∃ last, (BitCursor.ofBytes writer.bytes).performAll
          (writes.map fun write => .read write.count) =
            (writes.map fun write => .ok (some (write.value % 2 ^ write.count)), last) ∧
        last.position = writer.bitLength) ∧
      ∀ others : List BitWrite, (∀ write ∈ others, write.count ≤ 64) →
        others.flatMap BitWrite.bits = writes.flatMap BitWrite.bits →
          (BitWriter.empty.writeAll others).bytes = writer.bytes := by
  intro writer
  have hlength : writer.bitLength = (writes.map BitWrite.count).sum :=
    (BitWriter.empty.bitLength_writeAll writes).trans (Nat.zero_add _)
  have hbits : Bits.ofBytes writer.bytes = writes.flatMap BitWrite.bits ++
      List.replicate (8 * writer.bytes.length - writer.bitLength) false := by
    rw [writer.ofBytes_bytes, BitWriter.bits_writeAll]
    rfl
  refine ⟨hlength, writer.length_bytes, hbits, ?_, ?_⟩
  · obtain ⟨last, hlast, hskip⟩ := BitCursor.performAll_writes hcounts
      (show (BitCursor.ofBytes writer.bytes).ahead = _ from hbits)
    refine ⟨last, hlast, ?_⟩
    rw [(BitCursor.position_skip hskip).2, hlength]
    exact Nat.zero_add _
  · intro others _ hothers
    have hsame : (BitWriter.empty.writeAll others).bits = writer.bits := by
      rw [BitWriter.bits_writeAll, BitWriter.bits_writeAll, hothers]
    exact BitWriter.bytes_eq_of_bits hsame

/-- A value with more bits than are written, one of no bits, and a whole word across nine octets;
and the same bits in two groups. -/
theorem writer_adds_bits_to_list_straddling :
    let writes : List BitWrite := [⟨0xFFFF, 3⟩, ⟨42, 0⟩, ⟨0x8000000000000001, 64⟩, ⟨0x15, 6⟩]
    let writer := BitWriter.empty.writeAll writes
    (∀ write ∈ writes, write.count ≤ 64) ∧ writer.bitLength = 73 ∧ writer.bytes.length = 10 ∧
      (Bits.ofBytes writer.bytes).drop 73 = List.replicate 7 false ∧
      (∃ last, (BitCursor.ofBytes writer.bytes).performAll
          [.read 3, .read 0, .read 64, .read 6] =
            ([.ok (some 7), .ok (some 0), .ok (some 0x8000000000000001), .ok (some 0x15)], last) ∧
        last.position = 73) ∧
      (BitWriter.empty.writeAll [⟨0xF, 60⟩, ⟨0xAC0, 13⟩]).bytes = writer.bytes := by
  intro writes writer
  have hcounts : ∀ write ∈ writes, write.count ≤ 64 := by decide
  obtain ⟨hlength, hoctets, hbits, ⟨last, hread, hposition⟩, hgroups⟩ :=
    writer_adds_bits_to_list writes hcounts
  have htotal : writer.bitLength = 73 := hlength
  have hcount : writer.bytes.length = 10 := by rw [hoctets, htotal]
  refine ⟨hcounts, htotal, hcount, ?_, ⟨last, hread, hposition.trans htotal⟩, ?_⟩
  · rw [hbits, List.drop_left' (by decide), hcount, htotal]
  · exact hgroups _ (by decide) (by decide)

end GroundLink.Telemetry
