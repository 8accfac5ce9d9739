import Mathlib.Data.Nat.Digits.Defs
import GroundLink.Proofs.Attempts
import GroundLink.Proofs.Telemetry.RoundTrip
import GroundLink.Proofs.Telemetry.Writer

/-! # The order of octets in a field

A field may begin anywhere in an octet. What counts as its octets are the groups of eight bits from
there on, and its byte order says on which end of the value the first of them stands. Whatever
is written as a field is read from its place again, with anything before and behind it.
-/

namespace GroundLink.Telemetry

/-- Every digit to the base 256 takes the place of eight bits. -/
theorem testBit_ofDigits {digits : List Nat} (h : ∀ digit ∈ digits, digit < 2 ^ 8) (weight : Nat) :
    (Nat.ofDigits 256 digits).testBit weight =
      (digits[weight / 8]?.getD 0).testBit (weight % 8) := by
  induction digits generalizing weight with
  | nil => simp
  | cons digit rest ih =>
      obtain ⟨hdigit, hrest⟩ := List.forall_mem_cons.mp h
      have hsplit : Nat.ofDigits 256 (digit :: rest) = 2 ^ 8 * Nat.ofDigits 256 rest + digit := by
        rw [Nat.ofDigits_cons, Nat.add_comm]
        rfl
      rw [hsplit, Nat.testBit_two_pow_mul_add _ hdigit]
      split
      next hlow =>
        rw [Nat.div_eq_of_lt hlow, Nat.mod_eq_of_lt hlow]
        rfl
      next hhigh =>
        have hdiv : weight / 8 = (weight - 8) / 8 + 1 := by omega
        have hmod : weight % 8 = (weight - 8) % 8 := by omega
        rw [ih hrest, hdiv, hmod, List.getElem?_cons_succ]

namespace BitCursor

/-- The number in the eight bits of a group ahead, the first bit being the least significant. -/
def group (cursor : BitCursor) (index : Nat) : Nat :=
  Bits.toNat ((cursor.ahead.drop (8 * index)).take 8)

/-- The next groups of eight bits. -/
def groups (cursor : BitCursor) (count : Nat) : List Nat := (List.range count).map cursor.group

variable (cursor : BitCursor)

theorem testBit_group (index weight : Nat) :
    (cursor.group index).testBit weight =
      (decide (weight < 8) && cursor.bytes.bit (cursor.position + (8 * index + weight))) := by
  rw [group, Bits.toNat_take, ahead, List.drop_drop, Bits.toNat_drop, Bits.toNat_ofBytes,
    Nat.pow_eq, Nat.pow_eq, Nat.testBit_mod_two_pow, Nat.testBit_div_two_pow,
    Bytes.testBit_toNatLE, Nat.add_comm weight, Nat.add_assoc]

theorem group_lt (index : Nat) : cursor.group index < 2 ^ 8 := by
  apply Nat.lt_pow_two_of_testBit
  intro weight hweight
  rw [testBit_group, decide_eq_false (Nat.not_lt.mpr hweight), Bool.false_and]

theorem length_groups (count : Nat) : (cursor.groups count).length = count := by
  rw [groups, List.length_map, List.length_range]

theorem group_lt_of_mem {count digit : Nat} (h : digit ∈ cursor.groups count) : digit < 2 ^ 8 := by
  obtain ⟨index, -, rfl⟩ := List.mem_map.mp h
  exact cursor.group_lt index

theorem getElem?_groups {count index : Nat} (h : index < count) :
    (cursor.groups count)[index]? = some (cursor.group index) := by
  rw [groups, List.getElem?_map, List.getElem?_range h]
  rfl

end BitCursor

namespace FieldSpec

/-- The groups of a field in the order of rising weight. -/
def digits (spec : FieldSpec) (cursor : BitCursor) : List Nat :=
  match spec.byteOrder with
  | .little => cursor.groups (spec.bits / 8)
  | .big => (cursor.groups (spec.bits / 8)).reverse

variable {spec : FieldSpec}

theorem length_digits (spec : FieldSpec) (cursor : BitCursor) :
    (spec.digits cursor).length = spec.bits / 8 := by
  unfold digits
  cases spec.byteOrder with
  | little => exact cursor.length_groups _
  | big => rw [List.length_reverse, cursor.length_groups]

theorem digit_lt {cursor : BitCursor} {digit : Nat} (h : digit ∈ spec.digits cursor) :
    digit < 2 ^ 8 := by
  unfold digits at h
  cases horder : spec.byteOrder with
  | little =>
      rw [horder] at h
      exact cursor.group_lt_of_mem h
  | big =>
      rw [horder] at h
      exact cursor.group_lt_of_mem (List.mem_reverse.mp h)

/-- The bits of a group go together into one octet of the value, in the same order. -/
theorem getElem?_digits (hwhole : spec.bits % 8 = 0) (cursor : BitCursor) {weight : Nat}
    (h : weight < spec.bits) :
    (spec.digits cursor)[weight / 8]? = some (cursor.group (spec.source weight / 8)) ∧
      spec.source weight % 8 = weight % 8 := by
  have hindex : weight / 8 < spec.bits / 8 := by omega
  unfold digits source
  cases spec.byteOrder with
  | little => exact ⟨cursor.getElem?_groups hindex, rfl⟩
  | big =>
      have hgroup : (8 * (spec.bits / 8 - 1 - weight / 8) + weight % 8) / 8 =
          spec.bits / 8 - 1 - weight / 8 := by omega
      dsimp only
      rw [List.getElem?_reverse (by rwa [cursor.length_groups]), cursor.length_groups,
        cursor.getElem?_groups (by omega), hgroup]
      exact ⟨rfl, by omega⟩

/-- The value of a field of whole octets has the groups for its digits. -/
theorem valueAt_eq_ofDigits (hwhole : spec.bits % 8 = 0) (cursor : BitCursor) :
    spec.valueAt cursor.position cursor.bytes = Nat.ofDigits 256 (spec.digits cursor) := by
  -- bit by bit, since a group may lie across two octets and is no octet of the buffer itself
  apply Nat.eq_of_testBit_eq
  intro weight
  rw [testBit_valueAt, testBit_ofDigits fun _ => digit_lt]
  by_cases h : weight < spec.bits
  · obtain ⟨hgroup, hmod⟩ := getElem?_digits hwhole cursor h
    have hsource : 8 * (spec.source weight / 8) + weight % 8 = spec.source weight := by omega
    rw [hgroup, Option.getD_some, BitCursor.testBit_group, hsource, decide_eq_true h,
      decide_eq_true (Nat.mod_lt _ (by decide))]
  · have hnone : (spec.digits cursor)[weight / 8]? = none := by
      rw [List.getElem?_eq_none_iff, length_digits]
      omega
    rw [hnone, Option.getD_none, Nat.zero_testBit, decide_eq_false h, Bool.false_and]

/-- A field of whole octets is read by its digits. -/
theorem decode_of_whole (hvalid : spec.Valid) (hwhole : spec.bits % 8 = 0) {cursor : BitCursor}
    (h : spec.bits ≤ cursor.remaining) :
    ∃ next, spec.decode cursor =
        .ok (⟨Nat.ofDigits 256 (spec.digits cursor), spec.bits, spec.presentation⟩, next) ∧
      next.bytes = cursor.bytes ∧ next.position = cursor.position + spec.bits := by
  obtain ⟨next, hnext⟩ := BitCursor.exists_skip h
  refine ⟨next, ?_, BitCursor.position_skip hnext⟩
  rw [decode_of_skip hvalid hnext, valueAt_eq_ofDigits hwhole]

theorem encode_of_ge (hvalid : spec.Valid) {value : Nat} (hvalue : 2 ^ spec.bits ≤ value)
    (writer : BitWriter) :
    spec.encode writer value = .error ⟨.valueTooLarge value spec.bits, writer⟩ := by
  have hmask : value > Bits.mask spec.bits := by
    have hpos := Nat.two_pow_pos spec.bits
    rw [Bits.mask_eq hvalid.2.1, Nat.pow_eq]
    omega
  rw [encode, validate_of_valid hvalid]
  exact if_pos hmask

/-- Whatever a value or a field is refused for, nothing has been written. -/
theorem left_of_encode {writer : BitWriter} {value : Nat} {failed : Failed BitWriter}
    (h : spec.encode writer value = .error failed) : failed.left = writer := by
  rw [encode, bind_eq_error_iff] at h
  obtain hinvalid | ⟨_, -, hlarge⟩ := h
  · cases hvalidate : spec.validate with
    | ok _ =>
        rw [hvalidate] at hinvalid
        cases hinvalid
    | error error =>
        rw [hvalidate] at hinvalid
        cases hinvalid
        rfl
  · split at hlarge
    · cases hlarge
      rfl
    · cases hlarge

/-- A value that has been written is read where its bits are, whatever stands behind them. -/
theorem decode_of_ahead (hvalid : spec.Valid) {value : Nat} (hvalue : value < 2 ^ spec.bits)
    {cursor : BitCursor} {rest : List Bool}
    (hahead : cursor.ahead = Bits.ofNat spec.bits (spec.reorder value) ++ rest) :
    ∃ next, spec.decode cursor = .ok (⟨value, spec.bits, spec.presentation⟩, next) ∧
      next.position = cursor.position + spec.bits := by
  have hlength : (Bits.ofNat spec.bits (spec.reorder value)).length = spec.bits :=
    Bits.length_ofNat _ _
  have hinside : spec.bits ≤ cursor.remaining := by
    rw [← BitCursor.length_ahead, hahead, List.length_append, hlength]
    omega
  obtain ⟨next, hnext⟩ := BitCursor.exists_skip hinside
  have hpeek : cursor.peek spec.bits = spec.reorder value := by
    rw [BitCursor.peek, hahead, List.take_left' hlength, Bits.toNat_ofNat]
    exact Nat.mod_eq_of_lt (reorder_lt hvalid hvalue)
  refine ⟨next, ?_, (BitCursor.position_skip hnext).2⟩
  rw [decode_of_skip hvalid hnext, ← reorder_peek hvalid, hpeek, reorder_reorder hvalid hvalue]

end FieldSpec

namespace BitWriter

/-- A value for a field is handed to a writer that is used again afterwards, also when the value has
been refused. -/
def offer (writer : BitWriter) (spec : FieldSpec) (value : Nat) :
    Except TelemetryError Unit × BitWriter :=
  match spec.encode writer value with
  | .ok next => (.ok (), next)
  | .error failed => (.error failed, failed.left)

theorem offer_of_error {writer : BitWriter} {spec : FieldSpec} {value : Nat} {e : TelemetryError}
    (h : (writer.offer spec value).1 = .error e) : (writer.offer spec value).2 = writer := by
  unfold offer at h ⊢
  split
  next next hnext =>
    rw [hnext] at h
    cases h
  next failed hfailed => exact FieldSpec.left_of_encode hfailed

/-- A writer whose bits are continued has them in its octets where they were. -/
theorem exists_start (writer : BitWriter) {rest : List Bool} {last : BitWriter}
    (h : last.bits = writer.bits ++ rest) :
    ∃ start zeros, (BitCursor.ofBytes last.bytes).skip writer.bitLength = .ok start ∧
      start.ahead = rest ++ zeros := by
  have hbits : (BitCursor.ofBytes last.bytes).ahead = writer.bits ++ (rest ++
      List.replicate (8 * last.bytes.length - last.bitLength) false) := by
    rw [← List.append_assoc, ← h, ← last.ofBytes_bytes]
    rfl
  have hinside : writer.bitLength ≤ (BitCursor.ofBytes last.bytes).remaining := by
    rw [← BitCursor.length_ahead, hbits, List.length_append, length_bits]
    omega
  obtain ⟨start, hstart⟩ := BitCursor.exists_skip hinside
  refine ⟨start, List.replicate (8 * last.bytes.length - last.bitLength) false, hstart, ?_⟩
  rw [BitCursor.ahead_skip hstart, hbits, List.drop_left' writer.length_bits]

end BitWriter

/-- At any offset a field of up to eight whole octets is read from the groups of eight bits there:
they are the digits of its value to the base 256, from the least significant one on in a little
endian field and from the most significant one on in a big endian field. A value is accepted for a
field exactly if the bits of the field are enough for it; just so many bits are added then, from
which the value is read again, wherever they begin and whatever is written behind them. A writer
that refuses a value is as before. -/
theorem fields_follow_byte_order :
    (∀ (name : String) (presentation : Presentation) (octets : Nat) (cursor : BitCursor),
      1 ≤ octets → octets ≤ 8 → 8 * octets ≤ cursor.remaining →
        (∃ next,
          FieldSpec.decode ⟨name, 8 * octets, presentation, .big⟩ cursor =
            .ok (⟨Nat.ofDigits 256 (cursor.groups octets).reverse, 8 * octets, presentation⟩,
              next) ∧
          next.bytes = cursor.bytes ∧ next.position = cursor.position + 8 * octets) ∧
        ∃ next,
          FieldSpec.decode ⟨name, 8 * octets, presentation, .little⟩ cursor =
            .ok (⟨Nat.ofDigits 256 (cursor.groups octets), 8 * octets, presentation⟩, next) ∧
          next.bytes = cursor.bytes ∧ next.position = cursor.position + 8 * octets) ∧
    (∀ (spec : FieldSpec) (writer : BitWriter) (value : Nat), spec.Valid →
      (value < 2 ^ spec.bits →
        ∃ next added, writer.offer spec value = (.ok (), next) ∧
          next.bits = writer.bits ++ added ∧ added.length = spec.bits ∧
          ∀ later : List BitWrite, ∃ start last,
            (BitCursor.ofBytes (next.writeAll later).bytes).skip writer.bitLength = .ok start ∧
              spec.decode start = .ok (⟨value, spec.bits, spec.presentation⟩, last) ∧
              last.position = writer.bitLength + spec.bits) ∧
      (2 ^ spec.bits ≤ value →
        writer.offer spec value = (.error (.valueTooLarge value spec.bits), writer))) ∧
    ∀ (spec : FieldSpec) (writer : BitWriter) (value : Nat) (e : TelemetryError),
      (writer.offer spec value).1 = .error e → (writer.offer spec value).2 = writer := by
  refine ⟨?_, ?_, fun _ _ _ _ => BitWriter.offer_of_error⟩
  · intro name presentation octets cursor hpos hmax henough
    have hwhole : 8 * octets % 8 = 0 := Nat.mul_mod_right 8 octets
    have hcount : 8 * octets / 8 = octets := Nat.mul_div_cancel_left octets (by decide)
    have hvalid (order : ByteOrder) :
        FieldSpec.Valid ⟨name, 8 * octets, presentation, order⟩ := by
      refine ⟨?_, ?_, fun _ => hwhole⟩
      · dsimp only
        omega
      · unfold maxFieldBits
        dsimp only
        omega
    have hbig := FieldSpec.decode_of_whole (hvalid .big) hwhole henough
    have hlittle := FieldSpec.decode_of_whole (hvalid .little) hwhole henough
    simp only [FieldSpec.digits, hcount] at hbig hlittle
    exact ⟨hbig, hlittle⟩
  · intro spec writer value hvalid
    refine ⟨fun hvalue => ?_, fun hvalue => ?_⟩
    · refine ⟨writer.write (spec.reorder value) spec.bits, _, ?_, writer.bits_write _ _,
        Bits.length_ofNat _ _, fun later => ?_⟩
      · rw [BitWriter.offer, FieldSpec.encode_of_lt hvalid hvalue]
      · have hbits : ((writer.write (spec.reorder value) spec.bits).writeAll later).bits =
            writer.bits ++ (Bits.ofNat spec.bits (spec.reorder value) ++
              later.flatMap BitWrite.bits) := by
          rw [BitWriter.bits_writeAll, BitWriter.bits_write, List.append_assoc]
        obtain ⟨start, zeros, hstart, hahead⟩ := writer.exists_start hbits
        rw [List.append_assoc] at hahead
        obtain ⟨last, hlast, hposition⟩ := FieldSpec.decode_of_ahead hvalid hvalue hahead
        refine ⟨start, last, hstart, hlast, ?_⟩
        rw [hposition, (BitCursor.position_skip hstart).2]
        exact congrArg (· + spec.bits) (Nat.zero_add _)
    · rw [BitWriter.offer, FieldSpec.encode_of_ge hvalid hvalue]

/-- Seven octets that begin at the sixth bit of another one. -/
theorem fields_follow_byte_order_skewed :
    let cursor : BitCursor := ⟨[0xE0, 1, 2, 3, 4, 5, 6, 7, 0xFF], 5, by decide⟩
    let spec : FieldSpec := ⟨"time", 56, .hex, .big⟩
    let writer := BitWriter.empty.write 0x15 5
    (∃ next, spec.decode cursor = .ok (⟨0x0F101820283038, 56, .hex⟩, next) ∧
        next.position = 61) ∧
      (∃ next, FieldSpec.decode ⟨"time", 56, .hex, .little⟩ cursor =
          .ok (⟨0x3830282018100F, 56, .hex⟩, next) ∧ next.position = 61) ∧
      spec.Valid ∧
      (∃ next start last, writer.offer spec 0x0123456789ABCD = (.ok (), next) ∧
        (BitCursor.ofBytes (next.writeAll [⟨0x7F, 7⟩, ⟨0, 9⟩]).bytes).skip 5 = .ok start ∧
        spec.decode start = .ok (⟨0x0123456789ABCD, 56, .hex⟩, last) ∧ last.position = 61) ∧
      writer.offer spec (2 ^ 56) = (.error (.valueTooLarge (2 ^ 56) 56), writer) := by
  intro cursor spec writer
  obtain ⟨hread, hwrite, -⟩ := fields_follow_byte_order
  have hvalid : spec.Valid := by decide
  have hlength : writer.bitLength = 5 := by simp [writer]
  have hlittle : Nat.ofDigits 256 (cursor.groups 7) = 0x3830282018100F := by decide +kernel
  have hbig : Nat.ofDigits 256 (cursor.groups 7).reverse = 0x0F101820283038 := by decide +kernel
  obtain ⟨⟨big, hbigRead, -, hbigPosition⟩, ⟨little, hlittleRead, -, hlittlePosition⟩⟩ :=
    hread "time" .hex 7 cursor (by decide) (by decide) (by decide)
  rw [hbig] at hbigRead
  rw [hlittle] at hlittleRead
  obtain ⟨haccepted, -⟩ := hwrite spec writer 0x0123456789ABCD hvalid
  obtain ⟨-, hrefused⟩ := hwrite spec writer (2 ^ 56) hvalid
  obtain ⟨next, -, hnext, -, -, hlater⟩ := haccepted (by decide)
  obtain ⟨start, last, hstart, hlast, hposition⟩ := hlater [⟨0x7F, 7⟩, ⟨0, 9⟩]
  rw [hlength] at hstart hposition
  exact ⟨⟨big, hbigRead, hbigPosition⟩, ⟨little, hlittleRead, hlittlePosition⟩, hvalid,
    ⟨next, start, last, hnext, hstart, hlast, hposition⟩, hrefused (Nat.le_refl _)⟩

end GroundLink.Telemetry
