import GroundLink.Proofs.Link.Remainder

/-! # Bursts

Two data of one length have the same checksum only if the divisor divides their difference. When
they differ within four octets that stand together, the difference is a power of `X` times a
polynomial of a degree below that of the divisor; and the divisor has no factor `X`. So such data
never pass for each other, and a packet that was damaged in this way is never taken for a good one.
-/

namespace GroundLink.Link

open Polynomial

/-! ## Data as polynomials -/

theorem dataPolynomial_append (first second : Bytes) :
    dataPolynomial (first ++ second) =
      X ^ (8 * second.length) * dataPolynomial first + dataPolynomial second := by
  induction second using List.reverseRecOn with
  | nil => simp [dataPolynomial]
  | append_singleton second octet ih =>
      have hlength : 8 * (second ++ [octet]).length = 8 + 8 * second.length := by
        rw [List.length_append, List.length_singleton]
        omega
      rw [← List.append_assoc, dataPolynomial_concat, ih, dataPolynomial_concat, hlength]
      ring

/-- Every octet has eight coefficients of its own. -/
theorem degree_dataPolynomial_lt (data : Bytes) :
    (dataPolynomial data).degree < (8 * data.length : Nat) := by
  induction data using List.reverseRecOn with
  | nil => simp [dataPolynomial]
  | append_singleton data octet ih =>
      rw [degree_lt_iff_coeff_zero] at ih ⊢
      intro i hi
      rw [List.length_append, List.length_singleton] at hi
      rw [dataPolynomial_concat, coeff_add, coeff_X_pow_mul', if_pos (by omega),
        ih (i - 8) (by omega), coeff_bitPolynomial,
        BitVec.getLsbD_of_ge octet.toBitVec i (by omega), if_neg Bool.false_ne_true, add_zero]

theorem bitPolynomial_injective {width : Nat} :
    Function.Injective (@bitPolynomial width) := by
  intro first second h
  apply BitVec.eq_of_getLsbD_eq
  intro i hi
  have hcoeff := congrArg (fun polynomial => polynomial.coeff i) h
  simp only [coeff_bitPolynomial] at hcoeff
  cases hfirst : first.getLsbD i <;> cases hsecond : second.getLsbD i <;> simp_all

/-- Data of one length are told apart by their polynomials. -/
theorem eq_of_dataPolynomial_eq {first second : Bytes} (hlength : first.length = second.length)
    (h : dataPolynomial first = dataPolynomial second) : first = second := by
  induction first using List.reverseRecOn generalizing second with
  | nil => exact (List.length_eq_zero_iff.mp hlength.symm).symm
  | append_singleton first octet ih =>
      rcases List.eq_nil_or_concat' second with rfl | ⟨others, other, rfl⟩
      · simp at hlength
      · rw [dataPolynomial_concat, dataPolynomial_concat] at h
        -- quotient and remainder of a division by `X ^ 8`
        have hdegree : ∀ octet : UInt8,
            (bitPolynomial octet.toBitVec).degree < ((X : (ZMod 2)[X]) ^ 8).degree := by
          intro octet
          rw [degree_X_pow]
          exact degree_bitPolynomial_lt _
        obtain ⟨hfirst, hoctet⟩ := div_modByMonic_unique (dataPolynomial first) _
          (monic_X_pow 8) ⟨add_comm _ _, hdegree octet⟩
        obtain ⟨hothers, hother⟩ := div_modByMonic_unique (dataPolynomial others) _
          (monic_X_pow 8) ⟨add_comm _ _, hdegree other⟩
        rw [h] at hfirst hoctet
        have hsame : octet = other :=
          UInt8.toBitVec_inj.mp (bitPolynomial_injective (hoctet.symm.trans hother))
        have hrest : first = others := by
          refine ih ?_ (hfirst.symm.trans hothers)
          simpa using hlength
        rw [hsame, hrest]

/-! ## Differences that the divisor sees -/

/-- The lowest coefficient of the divisor is not zero. -/
theorem isCoprime_divisor_X : IsCoprime divisor X := by
  have hlowest : divisor.coeff 0 = 1 := by
    rw [divisor, coeff_add, coeff_X_pow, coeff_bitPolynomial]
    simp [polynomial]
  refine ⟨1, -divX divisor, ?_⟩
  have hsplit := divX_mul_X_add divisor
  rw [hlowest, C_1] at hsplit
  linear_combination -hsplit

theorem divisor_dvd_of_checksum_eq {first second : Bytes} (hlength : first.length = second.length)
    (h : checksum first = checksum second) :
    divisor ∣ dataPolynomial first - dataPolynomial second := by
  have hresidue : residue (X ^ 32 * dataPolynomial first) =
      residue (X ^ 32 * dataPolynomial second) := by
    have hfirst := residue_checksum first
    have hsecond := residue_checksum second
    rw [h, hlength, map_add] at hfirst
    rw [map_add] at hsecond
    exact add_left_cancel (hfirst.symm.trans hsecond)
  have hdvd := AdjoinRoot.mk_eq_mk.mp hresidue
  rw [← mul_sub] at hdvd
  exact isCoprime_divisor_X.pow_right.dvd_of_dvd_mul_left hdvd

/-- No two windows of at most four octets can stand for each other between the same data. -/
theorem window_eq_of_checksum_eq (before after : Bytes) {first second : Bytes}
    (hlength : first.length = second.length) (hshort : first.length ≤ 4)
    (h : checksum (before ++ first ++ after) = checksum (before ++ second ++ after)) :
    first = second := by
  have hdvd := divisor_dvd_of_checksum_eq (by simp [hlength]) h
  have hdifference : dataPolynomial (before ++ first ++ after) -
      dataPolynomial (before ++ second ++ after) =
        X ^ (8 * after.length) * (dataPolynomial first - dataPolynomial second) := by
    rw [dataPolynomial_append, dataPolynomial_append before, dataPolynomial_append _ after,
      dataPolynomial_append before, hlength]
    ring
  rw [hdifference] at hdvd
  apply eq_of_dataPolynomial_eq hlength
  apply sub_eq_zero.mp
  apply eq_zero_of_dvd_of_degree_lt (isCoprime_divisor_X.pow_right.dvd_of_dvd_mul_left hdvd)
  have hdegree : ∀ data : Bytes, data.length ≤ 4 → (dataPolynomial data).degree < 32 := by
    intro data hdata
    refine (degree_dataPolynomial_lt data).trans_le ?_
    exact_mod_cast (by omega : 8 * data.length ≤ 32)
  rw [degree_divisor]
  exact (degree_sub_le _ _).trans_lt
    (max_lt (hdegree first hshort) (hdegree second (hlength ▸ hshort)))

/-- Data that differ from others of the same length, all within four octets that stand together. -/
structure Burst (first second : Bytes) : Prop where
  length_eq : first.length = second.length
  differs : first ≠ second
  within : ∃ start, ∀ i < first.length, first[i]? ≠ second[i]? → start ≤ i ∧ i < start + 4

theorem Burst.checksum_ne {first second : Bytes} (h : Burst first second) :
    checksum first ≠ checksum second := by
  intro hsame
  obtain ⟨start, hwithin⟩ := h.within
  have hoctet : ∀ i, i < start ∨ start + 4 ≤ i → first[i]? = second[i]? := by
    intro i hi
    by_contra hne
    by_cases hinside : i < first.length
    · have := hwithin i hinside hne
      omega
    · have hlength := h.length_eq
      exact hne (by rw [List.getElem?_eq_none (by omega), List.getElem?_eq_none (by omega)])
  have hbefore : first.take start = second.take start := by
    apply List.ext_getElem?
    intro i
    rw [List.getElem?_take, List.getElem?_take]
    split
    next hi => exact hoctet i (Or.inl hi)
    next => rfl
  have hafter : first.drop (start + 4) = second.drop (start + 4) := by
    apply List.ext_getElem?
    intro i
    rw [List.getElem?_drop, List.getElem?_drop]
    exact hoctet _ (Or.inr (Nat.le_add_right _ _))
  have hparts : ∀ data : Bytes,
      data = data.take start ++ (data.drop start).take 4 ++ data.drop (start + 4) := by
    intro data
    rw [List.append_assoc, ← List.drop_drop, List.take_append_drop, List.take_append_drop]
  have hwindow : (first.drop start).take 4 = (second.drop start).take 4 := by
    apply window_eq_of_checksum_eq (first.take start) (first.drop (start + 4))
    · simp [h.length_eq]
    · exact List.length_take_le _ _
    · rw [← hparts first, hbefore, hafter, ← hparts second, hsame]
  apply h.differs
  rw [hparts first, hparts second, hbefore, hwindow, hafter]

/-! ## Packets -/

/-- The packet of some data as it is written, with other data in their place. -/
def altered (first second : Bytes) : Bytes :=
  (Packet.bytes ⟨first⟩).take 3 ++ second ++ (Packet.bytes ⟨first⟩).drop (3 + first.length)

theorem altered_eq_framed {first second : Bytes} (hlength : first.length = second.length) :
    altered first second = framed second (Bytes.ofNatLE 4 (Packet.checksum ⟨first⟩)) := by
  simp [altered, framed, Packet.bytes, Bytes.ofNatLE, ← hlength, Nat.add_comm 3]

/-- Data that are altered within four octets never match the checksum of what they were. So when all
octets around them arrive as they were sent, the packet is refused for its checksum and taken off
whole: by reading, by an assembler that holds it, and however its octets arrive. What follows it is
not touched. -/
theorem bursts_are_caught {first second : Bytes} (hmax : first.length ≤ maxDataLength)
    (h : Burst first second) :
    checksumMatches second (checksum first).toNat = false ∧
      ∀ rest,
        Packet.read (altered first second ++ rest) = (.error .checksumMismatch, rest) ∧
          Assembler.next ⟨altered first second ++ rest⟩ =
            (some (.error .checksumMismatch), ⟨rest⟩) ∧
          ∀ calls, arrived calls = altered first second ++ rest →
            (Assembler.empty.feed calls).2.next.1 = none →
            Assembler.empty.feed calls =
              (.error .checksumMismatch :: (Assembler.drain ⟨rest⟩).1,
                (Assembler.drain ⟨rest⟩).2) := by
  have hmismatch : checksumMatches second (checksum first).toNat = false := by
    rw [← Bool.not_eq_true, checksumMatches_iff, BitVec.toNat_inj]
    exact h.checksum_ne
  refine ⟨hmismatch, ?_⟩
  intro rest
  have hcut : cut? (altered first second ++ rest) =
      some ⟨.error .checksumMismatch, (altered first second).length⟩ := by
    rw [altered_eq_framed h.length_eq, cut?_framed (h.length_eq ▸ hmax) (Bytes.length_ofNatLE 4 _),
      toNatLE_ofNatLE_checksum, hmismatch, if_neg Bool.false_ne_true]
  refine ⟨?_, ?_, ?_⟩
  · rw [Packet.read_of_some hcut]
    exact congrArg (Prod.mk _) List.drop_left
  · rw [Assembler.next_of_some hcut]
    exact congrArg (fun rest => (_, Assembler.mk rest)) List.drop_left
  · intro calls harrived hended
    rw [← Assembler.drain_extend_of_feed hended, harrived]
    exact Assembler.drain_append_of_cut? _ hcut

/-- Two octets of six are altered, three places apart; a stray octet and the start of another packet
follow, and the stream is cut inside the altered data. -/
theorem bursts_are_caught_cut :
    let first : Bytes := [1, 2, 3, 4, 5, 6]
    let second : Bytes := [1, 0x82, 3, 4, 0xFA, 6]
    let rest : Bytes := [7, headerOctet]
    let stream := altered first second ++ rest
    checksumMatches second (checksum first).toNat = false ∧
      Packet.read stream = (.error .checksumMismatch, rest) ∧
      Assembler.empty.feed [.extend (stream.take 6), .next, .extend (stream.drop 6), .next, .next] =
        ([.error .checksumMismatch, .error (.notHeader 7)], ⟨[headerOctet]⟩) := by
  intro first second rest stream
  have hburst : Burst first second := ⟨rfl, by decide, 1, by decide⟩
  obtain ⟨hmismatch, hstream⟩ := bursts_are_caught (by decide) hburst
  obtain ⟨hread, -, hfeed⟩ := hstream rest
  refine ⟨hmismatch, hread, ?_⟩
  rw [hfeed _ (by decide +kernel) (by decide +kernel)]
  decide +kernel

end GroundLink.Link
