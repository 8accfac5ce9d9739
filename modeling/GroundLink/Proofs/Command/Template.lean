import GroundLink.Command.Template

/-! # Templates and the lines made of them

Plain text is taken over, and a placeholder gives way to its argument as it is. So nothing gets
into a command line but the characters of its template and those of the arguments.
-/

namespace GroundLink.Command

variable {arguments : Arguments} {numbering : Numbering} {c : Char}

/-- The texts that placeholders can be replaced by. -/
def Arguments.values (arguments : Arguments) : List String :=
  arguments.positional ++ arguments.keywords.map Prod.snd

theorem Arguments.mem_values_of_find? {reference : Reference} {value : String}
    (h : arguments.find? reference = some value) : value ∈ arguments.values := by
  cases reference with
  | position index => exact List.mem_append_left _ (List.mem_of_getElem? h)
  | keyword name =>
      obtain ⟨before, after, hkeywords, -⟩ := List.lookup_eq_some_iff.mp h
      refine List.mem_append_right _ (List.mem_map.mpr ⟨(name, value), ?_, rfl⟩)
      rw [hkeywords]
      exact List.mem_append_cons_self

theorem mem_of_literal_mem_pieces {position : Nat} {template : List Char}
    (h : .literal c ∈ pieces position template) : c ∈ template := by
  fun_induction pieces position template with
  | case1 => exact nomatch h
  | case2 position rest ih | case3 position rest ih =>
      rcases List.mem_cons.mp h with heq | h
      · cases heq
        exact List.mem_cons_self
      · exact List.mem_cons_of_mem _ (List.mem_cons_of_mem _ (ih h))
  | case4 | case6 => simp at h
  | case5 position rest _ name after hafter _ ih =>
      have h := (List.mem_cons.mp h).resolve_left nofun
      have hmem : c ∈ rest.dropWhile (!isBrace ·) := by
        rw [hafter]
        exact List.mem_cons_of_mem _ (ih h)
      exact List.mem_cons_of_mem _ ((List.dropWhile_sublist _).mem hmem)
  | case7 position first rest _ _ _ _ ih =>
      rcases List.mem_cons.mp h with heq | h
      · cases heq
        exact List.mem_cons_self
      · exact List.mem_cons_of_mem _ (ih h)

section Fill

variable {name : List Char} {rest : List Piece} {filled : List Char × List Reference}

theorem fill_literal_eq_ok_iff :
    fill arguments numbering (.literal c :: rest) = .ok filled ↔
      ∃ others, fill arguments numbering rest = .ok others ∧
        filled = (c :: others.1, others.2) := by
  rw [fill]
  cases fill arguments numbering rest with
  | error fault => simp [bind, Except.bind]
  | ok others => simp [bind, Except.bind, pure, Except.pure, eq_comm]

/-- A placeholder that is filled gives way to the argument that it asks for. -/
theorem fill_placeholder_eq_ok_iff {position : Nat} :
    fill arguments numbering (.placeholder position name :: rest) = .ok filled ↔
      ∃ reference next value others, refer numbering name = .ok (reference, next) ∧
        arguments.find? reference = some value ∧ fill arguments next rest = .ok others ∧
          filled = (value.toList ++ others.1, reference :: others.2) := by
  rw [fill]
  constructor
  · intro h
    split at h
    next => cases h
    next reference next hrefer =>
      split at h
      next => cases h
      next value hvalue =>
        cases hrest : fill arguments next rest with
        | error fault =>
            rw [hrest] at h
            cases h
        | ok others =>
            rw [hrest] at h
            cases h
            exact ⟨reference, next, value, others, hrefer, hvalue, hrest, rfl⟩
  · rintro ⟨reference, next, value, others, hrefer, hvalue, hrest, rfl⟩
    simp only [hrefer, hvalue, hrest]
    rfl

/-- Every character of the text is a literal one or belongs to an argument. -/
theorem mem_fill {template : List Piece} {text : List Char} {used : List Reference}
    (h : fill arguments numbering template = .ok (text, used)) (hc : c ∈ text) :
    .literal c ∈ template ∨ ∃ value ∈ arguments.values, c ∈ value.toList := by
  induction template generalizing numbering text used with
  | nil =>
      cases h
      exact nomatch hc
  | cons first rest ih =>
      cases first with
      | literal other =>
          obtain ⟨others, hrest, heq⟩ := fill_literal_eq_ok_iff.mp h
          cases heq
          rcases List.mem_cons.mp hc with rfl | hc
          · exact Or.inl List.mem_cons_self
          · exact (ih hrest hc).imp_left (List.mem_cons_of_mem _)
      | flawed position flaw => cases h
      | placeholder position name =>
          obtain ⟨reference, next, value, others, -, hvalue, hrest, heq⟩ :=
            fill_placeholder_eq_ok_iff.mp h
          cases heq
          rcases List.mem_append.mp hc with hc | hc
          · exact Or.inr ⟨value, Arguments.mem_values_of_find? hvalue, hc⟩
          · exact (ih hrest hc).imp_left (List.mem_cons_of_mem _)

end Fill

/-- Every character of a command line comes from the template or from an argument. -/
theorem Formatter.mem_format {formatter : Formatter} {template line : String}
    (h : formatter.format template arguments = .ok line) (hc : c ∈ line.toList) :
    c ∈ template.toList ∨ ∃ value ∈ arguments.values, c ∈ value.toList := by
  unfold Formatter.format at h
  split at h
  · cases h
  · cases h
  next text used hfill =>
    split at h
    · cases h
    · cases h
      rw [String.toList_ofList] at hc
      exact (mem_fill hfill hc).imp_left mem_of_literal_mem_pieces

/-! ## Plain text and placeholders -/

theorem pieces_plain {plain : List Char} (hplain : ∀ c ∈ plain, isBrace c = false)
    (position : Nat) (rest : List Char) :
    pieces position (plain ++ rest) =
      plain.map .literal ++ pieces (position + octetCount plain) rest := by
  induction plain generalizing position with
  | nil => rfl
  | cons first others ih =>
      have hfirst := hplain first List.mem_cons_self
      have hopen : first ≠ '\x7b' := by
        rintro rfl
        exact absurd hfirst (by decide)
      have hclose : first ≠ '\x7d' := by
        rintro rfl
        exact absurd hfirst (by decide)
      have hothers := ih (fun c hc => hplain c (List.mem_cons_of_mem _ hc))
        (position + first.utf8Size)
      have hcount : octetCount (first :: others) = first.utf8Size + octetCount others := rfl
      rw [List.cons_append, pieces]
      · rw [hothers, hcount, Nat.add_assoc]
        rfl
      all_goals simp [hopen, hclose]

theorem pieces_placeholder {name : List Char} (hname : ∀ c ∈ name, isBrace c = false)
    (position : Nat) (after : List Char) :
    pieces position ('\x7b' :: (name ++ '\x7d' :: after)) =
      .placeholder position name :: pieces (position + octetCount name + 2) after := by
  have hall : ∀ c ∈ name, (!isBrace c) = true := fun c hc => by rw [hname c hc, Bool.not_false]
  have hdrop : (name ++ '\x7d' :: after).dropWhile (!isBrace ·) = '\x7d' :: after := by
    rw [List.dropWhile_append_of_pos hall, List.dropWhile_cons_of_neg (by decide)]
  have htake : (name ++ '\x7d' :: after).takeWhile (!isBrace ·) = name := by
    rw [List.takeWhile_append_of_pos hall, List.takeWhile_cons_of_neg (by decide), List.append_nil]
  have hsingle : ∀ rest, name ++ '\x7d' :: after ≠ '\x7b' :: rest := by
    intro rest heq
    cases name with
    | nil => cases heq
    | cons first others =>
        cases heq
        exact absurd (hname _ List.mem_cons_self) (by decide)
  generalize name ++ '\x7d' :: after = text at hdrop htake hsingle
  rw [pieces]
  · split
    next found hfound =>
      cases hdrop.symm.trans hfound
      rw [htake]
    next hnone => exact absurd hdrop (hnone after)
  · exact hsingle

theorem fill_plain (plain : List Char) (rest : List Piece) :
    fill arguments numbering (plain.map .literal ++ rest) =
      (fill arguments numbering rest).map fun filled => (plain ++ filled.1, filled.2) := by
  induction plain with
  | nil =>
      rw [List.map_nil, List.nil_append]
      cases fill arguments numbering rest <;> rfl
  | cons first others ih =>
      rw [List.map_cons, List.cons_append, fill, ih]
      cases fill arguments numbering rest <;> rfl

/-- A telecommand without arguments. -/
theorem Formatter.format_plain (formatter : Formatter) (plain : String)
    (hplain : ∀ c ∈ plain.toList, isBrace c = false) :
    formatter.format plain ⟨[], []⟩ = .ok plain := by
  have hpieces : pieces 0 plain.toList = plain.toList.map .literal ++ [] := by
    have hplainPieces := pieces_plain hplain 0 []
    rwa [List.append_nil, pieces] at hplainPieces
  have hunused : Arguments.unused? ⟨[], []⟩ [] = none := rfl
  rw [format, hpieces, fill_plain]
  simp only [fill, Except.map, hunused, ite_self, List.append_nil, String.ofList_toList]

/-- A telecommand with one argument behind a plain text. -/
theorem Formatter.format_plain_argument (formatter : Formatter) (plain : String)
    (hplain : ∀ c ∈ plain.toList, isBrace c = false) (argument : String) :
    formatter.format (plain ++ "\x7b0\x7d") ⟨[argument], []⟩ = .ok (plain ++ argument) := by
  have hpieces : pieces 0 (plain ++ "\x7b0\x7d").toList =
      plain.toList.map .literal ++ [.placeholder (octetCount plain.toList) ['0']] := by
    have hplaceholder := @pieces_placeholder ['0'] (by simp [isBrace]) (octetCount plain.toList) []
    rw [pieces] at hplaceholder
    rw [String.toList_append, pieces_plain hplain, Nat.zero_add]
    exact congrArg _ hplaceholder
  have hrefer : refer .undecided ['0'] = .ok (.position 0, .manual) := rfl
  have hfill : fill ⟨[argument], []⟩ .undecided [.placeholder (octetCount plain.toList) ['0']] =
      .ok (argument.toList, [.position 0]) := by
    have hfind : Arguments.find? ⟨[argument], []⟩ (.position 0) = some argument := rfl
    simp only [fill, hrefer, hfind, pure, bind, Except.pure, Except.bind, List.append_nil]
  have hunused : Arguments.unused? ⟨[argument], []⟩ [.position 0] = none := rfl
  have hline : String.ofList (plain.toList ++ argument.toList) = plain ++ argument := by
    rw [String.ofList_append, String.ofList_toList, String.ofList_toList]
  rw [format, hpieces, fill_plain, hfill]
  simp only [Except.map, hunused, ite_self, hline]

end GroundLink.Command
