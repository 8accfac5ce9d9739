import GroundLink.Proofs.Link.Packet

/-! # Two ways to read a stream

Packets are read off a stream one after the other, or a stream is given to an assembler and taken
apart. Both find the same as long as no header announces too much data. Such a header is where they
part: reading takes the announced length with it, whereas the assembler takes the header alone and
looks at the octets of the length again.
-/

namespace GroundLink.Link

/-- Whether a result tells of a header that announces too much data. -/
def isOversized : Except LinkError Packet → Bool
  | .error (.lengthTooLarge _) => true
  | _ => false

/-- Whether a result tells of the end of the stream. -/
def isEnd : Except LinkError Packet → Bool
  | .error .endOfStream => true
  | _ => false

/-- The results up to the first oversized header, and this one. -/
def throughOversized : List (Except LinkError Packet) → List (Except LinkError Packet)
  | [] => []
  | outcome :: rest => if isOversized outcome then [outcome] else outcome :: throughOversized rest

/-- The results in front of the end of the stream. -/
def beforeEnd (outcomes : List (Except LinkError Packet)) : List (Except LinkError Packet) :=
  outcomes.takeWhile fun outcome => !isEnd outcome

theorem any_throughOversized (outcomes : List (Except LinkError Packet)) :
    (throughOversized outcomes).any isOversized = outcomes.any isOversized := by
  induction outcomes with
  | nil => rfl
  | cons outcome rest ih =>
      rw [throughOversized]
      split
      next hoversized => simp [hoversized]
      next hoversized => simp [hoversized, ih]

/-! ## One packet -/

variable {buffer : Bytes} {cut : Cut}

theorem isEnd_of_cut? (h : cut? buffer = some cut) : isEnd cut.outcome = false := by
  cases cuts_of_cut? h with
  | stray first rest hfirst => rfl
  | oversized low high rest hlength => rfl
  | framed low high data found rest hlength hmax hfound =>
      dsimp only
      split <;> rfl

/-- Reading takes as much as the assembler, except for an oversized header. -/
theorem taken_of_not_oversized (h : isOversized cut.outcome = false) : cut.taken = cut.length := by
  unfold Cut.taken
  split
  next length houtcome =>
    rw [houtcome] at h
    exact nomatch h
  next => rfl

namespace Packet

/-- The results of reading a stream so many times, and what is unread then. -/
def readTimes (stream : Bytes) : Nat → List (Except LinkError Packet) × Bytes
  | 0 => ([], stream)
  | count + 1 =>
      ((read stream).1 :: (readTimes (read stream).2 count).1, (readTimes (read stream).2 count).2)

theorem readTimes_of_some (h : cut? buffer = some cut) (count : Nat) :
    readTimes buffer (count + 1) =
      (cut.outcome :: (readTimes (buffer.drop cut.taken) count).1,
        (readTimes (buffer.drop cut.taken) count).2) := by
  rw [readTimes, read_of_some h]

theorem beforeEnd_readTimes_of_some (h : cut? buffer = some cut) (count : Nat) :
    beforeEnd (readTimes buffer (count + 1)).1 =
      cut.outcome :: beforeEnd (readTimes (buffer.drop cut.taken) count).1 := by
  rw [readTimes_of_some h, beforeEnd, List.takeWhile_cons_of_pos (by simp [isEnd_of_cut? h]),
    beforeEnd]

/-- Nothing is read where an assembler waits. -/
theorem beforeEnd_readTimes_of_none (h : cut? buffer = none) (count : Nat) :
    beforeEnd (readTimes buffer count).1 = [] := by
  cases count with
  | zero => rfl
  | succ count =>
      rw [readTimes, read_of_none h]
      rfl

end Packet

/-! ## The whole stream -/

open Packet

/-- Up to the first oversized header the readings are what the assembler cuts off. -/
theorem throughOversized_readTimes (assembler : Assembler) (count : Nat) :
    throughOversized (beforeEnd (readTimes assembler.buffer count).1) =
      (throughOversized assembler.drain.1).take count := by
  induction assembler using Assembler.drain.induct generalizing count with
  | case1 assembler hcut =>
      rw [beforeEnd_readTimes_of_none hcut, Assembler.drain_of_none hcut]
      exact List.take_nil.symm
  | case2 assembler cut hcut hlength others last hrest ih =>
      cases count with
      | zero => rfl
      | succ count =>
          rw [beforeEnd_readTimes_of_some hcut, Assembler.drain_of_some hcut, throughOversized,
            throughOversized]
          split
          next hoversized => rw [List.take_succ_cons, List.take_nil]
          next hoversized =>
            -- both go on behind the same octets
            rw [taken_of_not_oversized (Bool.eq_false_iff.mpr hoversized), ih,
              List.take_succ_cons]

/-- Where no header is oversized, as many readings as there are cuts stop in front of what waits. -/
theorem readTimes_length_drain {assembler : Assembler}
    (h : assembler.drain.1.any isOversized = false) :
    readTimes assembler.buffer assembler.drain.1.length =
      (assembler.drain.1, assembler.drain.2.buffer) := by
  induction assembler using Assembler.drain.induct with
  | case1 assembler hcut =>
      rw [Assembler.drain_of_none hcut]
      rfl
  | case2 assembler cut hcut hlength others last hrest ih =>
      rw [Assembler.drain_of_some hcut] at h ⊢
      dsimp only at h ⊢
      rw [List.any_cons, Bool.or_eq_false_iff] at h
      rw [List.length_cons, readTimes_of_some hcut, taken_of_not_oversized h.1, ih h.2]

theorem readTimes_append (stream : Bytes) (first second : Nat) :
    readTimes stream (first + second) =
      ((readTimes stream first).1 ++ (readTimes (readTimes stream first).2 second).1,
        (readTimes (readTimes stream first).2 second).2) := by
  induction first generalizing stream with
  | zero => rw [Nat.zero_add, readTimes, List.nil_append]
  | succ first ih => rw [Nat.succ_add, readTimes, ih, readTimes, List.cons_append]

theorem cut?_drain (assembler : Assembler) : cut? assembler.drain.2.buffer = none := by
  cases hcut : cut? assembler.drain.2.buffer with
  | none => rfl
  | some cut =>
      have hnext := assembler.next_drain
      rw [Assembler.next_of_some hcut] at hnext
      cases hnext

theorem isEnd_drain (assembler : Assembler) :
    ∀ outcome ∈ assembler.drain.1, isEnd outcome = false := by
  induction assembler using Assembler.drain.induct with
  | case1 assembler hcut =>
      rw [Assembler.drain_of_none hcut]
      simp
  | case2 assembler cut hcut hlength others last hrest ih =>
      rw [Assembler.drain_of_some hcut]
      exact List.forall_mem_cons.mpr ⟨isEnd_of_cut? hcut, ih⟩

/-- Reading a stream again and again and taking it apart with an assembler give the same results,
one by one, up to the first oversized header, and this one. It is found by both or by neither. When
there is none, the results of the assembler are the readings in front of the end of the stream, and
what it is left with is what the reading found that met the end. -/
theorem readers_agree_up_to_oversized (stream : Bytes) :
    let drained := (Assembler.empty.extend stream).drain
    (∀ count, throughOversized (beforeEnd (readTimes stream count).1) =
        (throughOversized drained.1).take count) ∧
      ((∃ outcome ∈ drained.1, isOversized outcome) ↔
        ∃ count, ∃ outcome ∈ beforeEnd (readTimes stream count).1, isOversized outcome) ∧
      ((∀ outcome ∈ drained.1, ¬ isOversized outcome) →
        (∀ outcome ∈ drained.1, ¬ isEnd outcome) ∧
        readTimes stream drained.1.length = (drained.1, drained.2.buffer) ∧
        readTimes stream (drained.1.length + 1) = (drained.1 ++ [.error .endOfStream], [])) := by
  intro drained
  have hagree : ∀ count, throughOversized (beforeEnd (readTimes stream count).1) =
      (throughOversized drained.1).take count :=
    throughOversized_readTimes (Assembler.empty.extend stream)
  refine ⟨hagree, ?_, ?_⟩
  · simp only [← List.any_eq_true]
    rw [← any_throughOversized]
    constructor
    · intro hfound
      refine ⟨(throughOversized drained.1).length, ?_⟩
      rwa [← any_throughOversized, hagree, List.take_length]
    · rintro ⟨count, hfound⟩
      rw [← any_throughOversized, hagree] at hfound
      obtain ⟨outcome, hmem, houtcome⟩ := List.any_eq_true.mp hfound
      exact List.any_eq_true.mpr ⟨outcome, List.mem_of_mem_take hmem, houtcome⟩
  · intro hnone
    have hany : drained.1.any isOversized = false :=
      List.any_eq_false.mpr hnone
    have hreadings : readTimes stream drained.1.length = (drained.1, drained.2.buffer) :=
      readTimes_length_drain hany
    refine ⟨fun outcome hmem => ?_, hreadings, ?_⟩
    · rw [isEnd_drain _ outcome hmem]
      exact Bool.false_ne_true
    · rw [readTimes_append, hreadings, readTimes, read_of_none (cut?_drain _), readTimes]

/-- A stray octet and a packet stand in front of the start of another one. -/
theorem readers_agree_up_to_oversized_short :
    let stream : Bytes := 7 :: (⟨[1, 2]⟩ : Packet).bytes ++ [headerOctet, 4]
    let drained := (Assembler.empty.extend stream).drain
    (∀ outcome ∈ drained.1, ¬ isOversized outcome) ∧
      drained.1.filterMap Except.toOption = [⟨[1, 2]⟩] ∧
      readTimes stream 2 = (drained.1, [headerOctet, 4]) ∧
      readTimes stream 3 = (drained.1 ++ [.error .endOfStream], []) := by
  intro stream drained
  have hdrained : drained = Assembler.empty.feed [.extend stream, .next, .next] := by
    rw [← Assembler.drain_extend_of_feed (by decide +kernel), arrived]
    simp only [arrived, List.append_nil, drained]
  have hnone : ∀ outcome ∈ drained.1, ¬ isOversized outcome := by
    rw [hdrained]
    decide +kernel
  have hlength : drained.1.length = 2 := by
    rw [hdrained]
    decide +kernel
  have hleft : drained.2.buffer = [headerOctet, 4] := by
    rw [hdrained]
    decide +kernel
  obtain ⟨-, -, hreadings⟩ := readers_agree_up_to_oversized stream
  obtain ⟨-, hbefore, hthrough⟩ := hreadings hnone
  change readTimes stream drained.1.length = (drained.1, drained.2.buffer) at hbefore
  change readTimes stream (drained.1.length + 1) = _ at hthrough
  rw [hlength, hleft] at hbefore
  rw [hlength] at hthrough
  refine ⟨hnone, ?_, hbefore, hthrough⟩
  rw [hdrained]
  decide +kernel

/-- Behind an oversized header they differ. -/
example :
    let stream : Bytes := [headerOctet, 0xFF, 0xFF, 5]
    (readTimes stream 2).1 = [.error (.lengthTooLarge 65535), .error (.notHeader 5)] ∧
      (Assembler.empty.feed [.extend stream, .next, .next]).1 =
        [.error (.lengthTooLarge 65535), .error (.notHeader 0xFF)] :=
  ⟨rfl, rfl⟩

end GroundLink.Link
