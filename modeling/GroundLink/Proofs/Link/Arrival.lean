import GroundLink.Proofs.Link.Cuts

/-! # Packets do not depend on how octets arrive

Octets arrive in pieces, and between any two pieces packets may be asked for or not. Nobody who asks
until more octets are needed can tell afterwards how it was: a piece that can be cut off a buffer is
cut off in the same way when more has arrived, so that all that is ever cut off, and what is left,
depends on the octets alone.
-/

namespace GroundLink.Link

/-- What is asked of an assembler. -/
inductive AssemblerCall where
  | extend (bytes : Bytes)
  | next
  deriving Repr, DecidableEq

/-- All octets that arrive with some calls. -/
def arrived : List AssemblerCall → Bytes
  | [] => []
  | .extend bytes :: rest => bytes ++ arrived rest
  | .next :: rest => arrived rest

theorem arrived_append (first second : List AssemblerCall) :
    arrived (first ++ second) = arrived first ++ arrived second := by
  induction first with
  | nil => rfl
  | cons call rest ih =>
      cases call with
      | extend bytes => simp only [List.cons_append, arrived, ih, List.append_assoc]
      | next => simp only [List.cons_append, arrived, ih]

@[simp] theorem arrived_replicate_next (count : Nat) :
    arrived (List.replicate count .next) = [] := by
  induction count with
  | zero => rfl
  | succ count ih => rw [List.replicate_succ, arrived, ih]

namespace Assembler

/-- Everything that some calls cut off, in order, and what is left. -/
def feed (assembler : Assembler) :
    List AssemblerCall → List (Except LinkError Packet) × Assembler
  | [] => ([], assembler)
  | .extend bytes :: rest => (assembler.extend bytes).feed rest
  | .next :: rest =>
      (assembler.next.1.toList ++ (assembler.next.2.feed rest).1, (assembler.next.2.feed rest).2)

theorem feed_append (assembler : Assembler) (first second : List AssemblerCall) :
    assembler.feed (first ++ second) =
      ((assembler.feed first).1 ++ ((assembler.feed first).2.feed second).1,
        ((assembler.feed first).2.feed second).2) := by
  induction first generalizing assembler with
  | nil => rfl
  | cons call rest ih =>
      cases call with
      | extend bytes => simp only [List.cons_append, feed, ih]
      | next => simp only [List.cons_append, feed, ih, List.append_assoc]

/-- Whatever has been asked for on the way, what has been cut off and what can still be cut off is
the same in the end. -/
theorem drain_extend_arrived (assembler : Assembler) (calls : List AssemblerCall) :
    (assembler.extend (arrived calls)).drain =
      ((assembler.feed calls).1 ++ (assembler.feed calls).2.drain.1,
        (assembler.feed calls).2.drain.2) := by
  induction calls generalizing assembler with
  | nil => simp [feed, arrived, extend]
  | cons call rest ih =>
      cases call with
      | extend bytes =>
          rw [feed, ← ih, extend, extend, extend, arrived, List.append_assoc]
      | next =>
          cases hcut : cut? assembler.buffer with
          | none =>
              rw [feed, next_of_none hcut, arrived, ih]
              rfl
          | some cut =>
              -- the cut is the same when everything has arrived
              have hlater : cut? (assembler.extend (arrived rest)).buffer = some cut :=
                cut?_append hcut (arrived rest)
              have hdrop : (assembler.extend (arrived rest)).buffer.drop cut.length =
                  assembler.buffer.drop cut.length ++ arrived rest :=
                List.drop_append_of_le_length (cut?_length hcut).2
              rw [feed, next_of_some hcut, arrived, drain_of_some hlater, hdrop]
              have hrest := ih ⟨assembler.buffer.drop cut.length⟩
              rw [extend] at hrest
              rw [hrest]
              rfl

/-- When everything has been cut off, more octets are needed. -/
theorem next_drain (assembler : Assembler) :
    assembler.drain.2.next = (none, assembler.drain.2) := by
  induction assembler using drain.induct with
  | case1 assembler hcut =>
      rw [drain_of_none hcut]
      exact next_of_none hcut
  | case2 assembler cut hcut hlength others last hrest ih =>
      rw [drain_of_some hcut]
      exact ih

/-- Asking again and again cuts off everything. -/
theorem exists_feed_eq_drain (assembler : Assembler) :
    ∃ count, assembler.feed (List.replicate count .next) = assembler.drain := by
  induction assembler using drain.induct with
  | case1 assembler hcut => exact ⟨0, (drain_of_none hcut).symm⟩
  | case2 assembler cut hcut hlength others last hrest ih =>
      obtain ⟨count, hcount⟩ := ih
      refine ⟨count + 1, ?_⟩
      rw [List.replicate_succ, feed, next_of_some hcut, hcount, drain_of_some hcut]
      rfl

/-- Nothing can be cut off any more where more octets are needed. -/
theorem drain_of_next {assembler : Assembler} (h : assembler.next.1 = none) :
    assembler.drain = ([], assembler) := by
  cases hcut : cut? assembler.buffer with
  | none => exact drain_of_none hcut
  | some cut =>
      rw [next_of_some hcut] at h
      exact nomatch h

theorem drain_extend_nil {assembler : Assembler} (h : assembler.next.1 = none) :
    (assembler.extend []).drain = ([], assembler) := by
  rw [extend, List.append_nil]
  exact drain_of_next h

/-- Calls that come to a point where more octets are needed have cut off all that there is. -/
theorem drain_extend_of_feed {assembler : Assembler} {calls : List AssemblerCall}
    (h : (assembler.feed calls).2.next.1 = none) :
    (assembler.extend (arrived calls)).drain = assembler.feed calls := by
  rw [drain_extend_arrived, drain_of_next h, List.append_nil]

/-- What is cut off on the arrival of more octets follows what has been cut off before. -/
theorem drain_extend (assembler : Assembler) (bytes : Bytes) :
    (assembler.extend bytes).drain =
      (assembler.drain.1 ++ (assembler.drain.2.extend bytes).drain.1,
        (assembler.drain.2.extend bytes).drain.2) := by
  obtain ⟨count, hcount⟩ := assembler.exists_feed_eq_drain
  have hdrain := assembler.drain_extend_arrived (List.replicate count .next ++ [.extend bytes])
  rw [feed_append, hcount] at hdrain
  simpa [arrived_append, arrived, feed] using hdrain

end Assembler

/-- Octets may arrive in any pieces, with packets asked for in between or not. After any calls,
asking often enough comes to a point where more octets are needed; and any two lists of calls with
the same octets that have come to this point have cut off the same packets and the same noise in
the same order, and left the same octets. -/
theorem packets_do_not_depend_on_arrival :
    (∀ calls, ∃ count,
      (Assembler.empty.feed (calls ++ List.replicate count .next)).2.next.1 = none) ∧
    ∀ first second, arrived first = arrived second →
      (Assembler.empty.feed first).2.next.1 = none →
      (Assembler.empty.feed second).2.next.1 = none →
      Assembler.empty.feed first = Assembler.empty.feed second := by
  constructor
  · intro calls
    obtain ⟨count, hcount⟩ := (Assembler.empty.feed calls).2.exists_feed_eq_drain
    refine ⟨count, ?_⟩
    rw [Assembler.feed_append, hcount, Assembler.next_drain]
  · intro first second harrived hfirst hsecond
    rw [← Assembler.drain_extend_of_feed hfirst, ← Assembler.drain_extend_of_feed hsecond, harrived]

/-- A stray octet, a packet and the start of another one arrive at once, or are cut inside the
packet, with an empty piece, and are asked for too early. -/
theorem packets_do_not_depend_on_arrival_cut :
    let stream : Bytes := 7 :: (⟨[1, 2]⟩ : Packet).bytes ++ [headerOctet, 0]
    let together : List AssemblerCall := [.extend stream, .next, .next]
    let apart : List AssemblerCall :=
      [.next, .extend (stream.take 5), .next, .next, .extend [], .extend (stream.drop 5), .next]
    Assembler.empty.feed together = Assembler.empty.feed apart ∧
      (Assembler.empty.feed apart).1.length = 2 ∧
      (Assembler.empty.feed apart).1.filterMap Except.toOption = [⟨[1, 2]⟩] ∧
      (Assembler.empty.feed apart).2 = ⟨[headerOctet, 0]⟩ := by
  intro stream together apart
  refine ⟨packets_do_not_depend_on_arrival.2 together apart rfl rfl rfl, ?_, ?_, ?_⟩
  all_goals decide +kernel

end GroundLink.Link
