import GroundLink.Text.Lines

/-! # Lines and margins put together

A text that is put together of lines with their ends is split into these lines again, and what is
cut off the end of a text comes from its last part, unless nothing of that is left.
-/

namespace GroundLink.Text

/-! ## Margins -/

theorem dropEnd_append (test : Char → Bool) (front back : List Char) :
    dropEnd test (front ++ back) =
      if dropEnd test back = [] then dropEnd test front else front ++ dropEnd test back := by
  simp only [dropEnd, List.reverse_append, List.dropWhile_append, List.isEmpty_iff,
    List.reverse_eq_nil_iff]
  split
  next => rfl
  next => rw [List.reverse_append, List.reverse_reverse]

theorem dropLineEnds_append (front back : List Char) :
    dropLineEnds (front ++ back) =
      if dropLineEnds back = [] then dropLineEnds front else front ++ dropLineEnds back :=
  dropEnd_append _ front back

theorem dropEnd_of_last {test : Char → Bool} {text : List Char} {c : Char}
    (hlast : text.getLast? = some c) (hc : test c = false) : dropEnd test text = text := by
  obtain ⟨front, rfl⟩ := List.getLast?_eq_some_iff.mp hlast
  have hcut : dropEnd test [c] = [c] := by simp [dropEnd, hc]
  rw [dropEnd_append, hcut, if_neg (List.cons_ne_nil _ _)]

theorem trim_of_ends {text : List Char} {first last : Char} (hfirst : text.head? = some first)
    (hlast : text.getLast? = some last) (hfirstBlank : isBlank first = false)
    (hlastBlank : isBlank last = false) : trim text = text := by
  obtain ⟨rest, rfl⟩ := List.head?_eq_some_iff.mp hfirst
  rw [trim, List.dropWhile_cons_of_neg (by simp [hfirstBlank]), dropEnd_of_last hlast hlastBlank]

/-- Digits are no blanks. -/
theorem not_isBlank_of_isDigit {c : Char} (h : c.isDigit = true) : isBlank c = false := by
  have hranges : ∀ range ∈ blankRanges, range.2 < 48 ∨ 57 < range.1 := by decide
  obtain ⟨hzero, hnine⟩ : 48 ≤ c.toNat ∧ c.toNat ≤ 57 := Char.isDigit_iff_toNat.mp h
  rw [← Bool.not_eq_true, isBlank, CodePoints.contains_iff]
  rintro ⟨range, hrange, hfirst, hlast⟩
  have houtside := hranges range hrange
  omega

/-! ## Parts -/

/-- The first separator is the one that separates. -/
theorem splitAt?_append {separator : Char} {before : List Char} (h : separator ∉ before)
    (after : List Char) :
    splitAt? separator (before ++ separator :: after) = some (before, after) := by
  have hbefore : ∀ c ∈ before, (c != separator) = true :=
    fun c hc => bne_iff_ne.mpr (ne_of_mem_of_not_mem hc h)
  have hdrop : (before ++ separator :: after).dropWhile (· != separator) = separator :: after := by
    rw [List.dropWhile_append_of_pos hbefore, List.dropWhile_cons_of_neg (by simp)]
  have htake : (before ++ separator :: after).takeWhile (· != separator) = before := by
    rw [List.takeWhile_append_of_pos hbefore, List.takeWhile_cons_of_neg (by simp), List.append_nil]
  rw [splitAt?, hdrop, htake]

theorem takeWhile_of_splitAt? {separator : Char} {text before after : List Char}
    (h : splitAt? separator text = some (before, after)) :
    text.takeWhile (· != separator) = before := by
  unfold splitAt? at h
  split at h
  next => cases h
  next =>
    cases h
    rfl

/-! ## Lines -/

theorem linesFrom_append {line : List Char} (h : '\n' ∉ line) (current rest : List Char) :
    linesFrom current (line ++ rest) = linesFrom (line.reverse ++ current) rest := by
  induction line generalizing current with
  | nil => rfl
  | cons c line ih =>
      have hc := List.ne_of_not_mem_cons h
      have hline := List.not_mem_of_not_mem_cons h
      rw [List.cons_append, linesFrom, if_neg (Ne.symm hc), ih hline, List.reverse_cons,
        List.append_assoc, List.singleton_append]

/-- A line ends at the first line feed. -/
theorem lines_append_feed {line : List Char} (h : '\n' ∉ line) (rest : List Char) :
    lines (line ++ '\n' :: rest) = dropReturn line :: lines rest := by
  rw [lines, linesFrom_append h, linesFrom, if_pos rfl, List.append_nil, List.reverse_reverse]
  rfl

theorem lines_of_last {line : List Char} (h : '\n' ∉ line) (hne : line ≠ []) :
    lines line = [line] := by
  have hlines := linesFrom_append h [] []
  rw [List.append_nil, List.append_nil, linesFrom, if_neg (by simpa using hne),
    List.reverse_reverse] at hlines
  exact hlines

theorem dropReturn_of_last {line : List Char} (h : line.getLast? ≠ some '\r') :
    dropReturn line = line := if_neg h

theorem dropReturn_append_return (line : List Char) : dropReturn (line ++ ['\r']) = line := by
  rw [dropReturn, if_pos List.getLast?_concat, List.dropLast_concat]

end GroundLink.Text
