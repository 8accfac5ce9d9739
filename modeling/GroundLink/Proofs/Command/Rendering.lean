import GroundLink.Proofs.Command.Grammar
import GroundLink.Proofs.Command.Usage
import GroundLink.Proofs.Text.Numeral

/-! # Command lines made of templates

What the placeholders of a template ask for shows in its tokens: the empty ones ask for the
positional arguments in turn, numbers and names for what they say. A line is made of a template
exactly if this makes sense and everything that is asked for is there; and the line is then the
tokens' own characters with the arguments between them, as they are.
-/

namespace GroundLink.Command

/-- A name that is the number of a positional argument. -/
def IsNumber (name : List Char) : Prop := name ≠ [] ∧ ∀ c ∈ name, c.isDigit = true

/-- What a placeholder may hold: nothing, a number of 64 bits, or the name of a keyword. -/
def ProperName (name : List Char) : Prop :=
  name = [] ∨ IsNumber name ∧ Numeral.spelled 10 name < Numeral.wordLimit ∨ isName name = true

/-- What a placeholder asks for when `next` empty ones stand before it. -/
def asked (next : Nat) (name : List Char) : Reference :=
  if name.isEmpty then .position next
  else if name.all Char.isDigit then .position (Numeral.spelled 10 name)
  else .keyword (String.ofList name)

/-- What a token stands for. -/
inductive Part where
  | literal (c : Char)
  | argument (reference : Reference)
  deriving Repr, DecidableEq

namespace Part

def reference? : Part → Option Reference
  | argument reference => some reference
  | _ => none

/-- The text of an argument is put in as it is. -/
def text (arguments : Arguments) : Part → List Char
  | literal c => [c]
  | argument reference => ((arguments.find? reference).getD "").toList

end Part

/-- What tokens stand for behind `next` empty placeholders. -/
def parts (next : Nat) : List Token → List Part
  | [] => []
  | .plain c _ :: rest => .literal c :: parts next rest
  | .doubled c _ :: rest => .literal c :: parts next rest
  | .placeholder name _ :: rest =>
      .argument (asked next name) :: parts (if name.isEmpty then next + 1 else next) rest

/-- The names in the placeholders of a template. -/
def names (tokens : List Token) : List (List Char) := tokens.filterMap Token.name?

/-- What the placeholders of a template ask for, in order. -/
def references (tokens : List Token) : List Reference := (parts 0 tokens).filterMap Part.reference?

/-- The text of a template with its arguments. -/
def rendered (arguments : Arguments) (tokens : List Token) : List Char :=
  (parts 0 tokens).flatMap (Part.text arguments)

/-- A template can be filled with arguments. -/
structure Fillable (arguments : Arguments) (tokens : List Token) : Prop where
  named : ∀ name ∈ names tokens, ProperName name
  /-- Empty placeholders and numbers do not both occur. -/
  unmixed : [] ∈ names tokens → ∀ name ∈ names tokens, ¬ IsNumber name
  /-- Everything that is asked for is there. -/
  supplied : ∀ reference ∈ references tokens, (arguments.find? reference).isSome = true

/-! ## Names -/

variable {name : List Char}

theorem not_isAlphabetic_of_isDigit {c : Char} (h : c.isDigit = true) :
    Text.isAlphabetic c = false := by
  have hranges : ∀ range ∈ Text.alphabeticRanges, range.2 < 48 ∨ 57 < range.1 := by
    decide +kernel
  obtain ⟨hzero, hnine⟩ : 48 ≤ c.toNat ∧ c.toNat ≤ 57 := Char.isDigit_iff_toNat.mp h
  rw [← Bool.not_eq_true, Text.isAlphabetic, CodePoints.contains_iff]
  rintro ⟨range, hrange, hfirst, hlast⟩
  have houtside := hranges range hrange
  omega

theorem isName_of_isNumber (h : IsNumber name) : isName name = false := by
  cases name with
  | nil => exact absurd rfl h.1
  | cons first rest =>
      have hdigit := h.2 first List.mem_cons_self
      have hunderscore : (first == '_') = false := by
        rw [beq_eq_false_iff_ne]
        rintro rfl
        exact absurd hdigit (by decide)
      rw [isName, not_isAlphabetic_of_isDigit hdigit, hunderscore]
      rfl

theorem isNumber_iff (hname : name ≠ []) : IsNumber name ↔ name.all Char.isDigit = true := by
  rw [IsNumber, List.all_eq_true]
  exact ⟨And.right, And.intro hname⟩

theorem asked_of_isNumber (next : Nat) (h : IsNumber name) :
    asked next name = .position (Numeral.spelled 10 name) := by
  rw [asked, if_neg (by simpa using h.1), if_pos ((isNumber_iff h.1).mp h)]

theorem asked_of_not_isNumber (next : Nat) (hname : name ≠ []) (h : ¬ IsNumber name) :
    asked next name = .keyword (String.ofList name) := by
  rw [asked, if_neg (by simpa using hname), if_neg (mt (isNumber_iff hname).mpr h)]

namespace Numbering

/-- How many empty placeholders have been counted. -/
def next : Numbering → Nat
  | automatic next => next
  | _ => 0

/-- The numbering behind the placeholder of a name. -/
def after (numbering : Numbering) (name : List Char) : Numbering :=
  if name.isEmpty then .automatic (numbering.next + 1)
  else if name.all Char.isDigit then .manual
  else numbering

/-- The placeholder of a name may follow. -/
def Admits (numbering : Numbering) (name : List Char) : Prop :=
  (name = [] → numbering ≠ .manual) ∧ (IsNumber name → ∀ next, numbering ≠ .automatic next)

/-- The placeholders of some names may follow, all of them. -/
def Accords : Numbering → List (List Char) → Prop
  | undecided, names => [] ∈ names → ∀ name ∈ names, ¬ IsNumber name
  | automatic _, names => ∀ name ∈ names, ¬ IsNumber name
  | manual, names => [] ∉ names

end Numbering

variable {numbering : Numbering}

theorem refer_of_proper (hproper : ProperName name) (hadmits : numbering.Admits name) :
    refer numbering name = .ok (asked numbering.next name, numbering.after name) := by
  rcases hproper with rfl | ⟨hnumber, hfits⟩ | hname
  · cases numbering with
    | undecided => rfl
    | automatic count => rfl
    | manual => exact absurd rfl (hadmits.1 rfl)
  · have hempty : ¬ name.isEmpty = true := by simpa using hnumber.1
    have hdigits := (isNumber_iff hnumber.1).mp hnumber
    have hlimit : 0 < Numeral.wordLimit := by decide
    have hread := Numeral.read_of_isDigit hlimit hnumber.1 hnumber.2
    rw [if_pos hfits] at hread
    rw [asked_of_isNumber _ hnumber, Numbering.after, if_neg hempty, if_pos hdigits]
    unfold refer
    rw [if_neg hempty, if_pos hdigits, hread]
    cases numbering with
    | undecided => rfl
    | automatic count => exact absurd rfl (hadmits.2 hnumber count)
    | manual => rfl
  · have hne : name ≠ [] := by
      rintro rfl
      cases hname
    have hempty : ¬ name.isEmpty = true := by simpa using hne
    have hnumber : ¬ IsNumber name := by
      intro hnumber
      rw [isName_of_isNumber hnumber] at hname
      cases hname
    have hdigits := mt (isNumber_iff hne).mpr hnumber
    rw [asked_of_not_isNumber _ hne hnumber, Numbering.after, if_neg hempty, if_neg hdigits]
    unfold refer
    rw [if_neg hempty, if_neg hdigits, if_pos hname]

theorem proper_of_refer {result : Reference × Numbering} (h : refer numbering name = .ok result) :
    ProperName name ∧ numbering.Admits name := by
  unfold refer at h
  split at h
  next hempty =>
    obtain rfl := List.isEmpty_iff.mp hempty
    refine ⟨Or.inl rfl, ?_, fun hnumber => absurd rfl hnumber.1⟩
    rintro - rfl
    cases h
  next hempty =>
    have hne : name ≠ [] := mt List.isEmpty_iff.mpr hempty
    split at h
    next hdigits =>
      have hnumber := (isNumber_iff hne).mpr hdigits
      split at h
      next => cases h
      next hmanual =>
        rw [Numeral.read_of_isDigit (by decide) hne hnumber.2] at h
        by_cases hfits : Numeral.spelled 10 name < Numeral.wordLimit
        · exact ⟨Or.inr (Or.inl ⟨hnumber, hfits⟩), fun hempty => absurd hempty hne,
            fun _ next hnext => hmanual next hnext⟩
        · rw [if_neg hfits] at h
          cases h
    next hdigits =>
      have hnumber := mt (isNumber_iff hne).mp hdigits
      split at h
      next hname =>
        exact ⟨Or.inr (Or.inr hname), fun hempty => absurd hempty hne,
          fun number => absurd number hnumber⟩
      next => cases h

/-- A name is understood if it is a proper one and goes with the numbering so far. -/
theorem refer_eq_ok_iff {reference : Reference} {next : Numbering} :
    refer numbering name = .ok (reference, next) ↔
      ProperName name ∧ numbering.Admits name ∧ reference = asked numbering.next name ∧
        next = numbering.after name := by
  constructor
  · intro h
    obtain ⟨hproper, hadmits⟩ := proper_of_refer h
    rw [refer_of_proper hproper hadmits] at h
    cases h
    exact ⟨hproper, hadmits, rfl, rfl⟩
  · rintro ⟨hproper, hadmits, rfl, rfl⟩
    exact refer_of_proper hproper hadmits

theorem Numbering.next_after (hadmits : numbering.Admits name) :
    (numbering.after name).next = if name.isEmpty then numbering.next + 1 else numbering.next := by
  unfold after
  split
  · rfl
  next hempty =>
    split
    next hdigits =>
      have hnumber := (isNumber_iff (mt List.isEmpty_iff.mpr hempty)).mpr hdigits
      cases numbering with
      | automatic count => exact absurd rfl (hadmits.2 hnumber count)
      | undecided => rfl
      | manual => rfl
    next => rfl

/-- Names accord with a numbering if each of them may follow those before it. -/
theorem Numbering.accords_cons {rest : List (List Char)} :
    numbering.Accords (name :: rest) ↔
      numbering.Admits name ∧ (numbering.after name).Accords rest := by
  by_cases hempty : name = []
  · subst hempty
    have hnumber : ¬ IsNumber [] := fun hnumber => hnumber.1 rfl
    have hafter : numbering.after [] = .automatic (numbering.next + 1) := rfl
    rw [hafter]
    cases numbering <;> simp [Accords, Admits, hnumber]
  · have hne : [] ≠ name := Ne.symm hempty
    by_cases hnumber : IsNumber name
    · have hafter : numbering.after name = .manual := by
        rw [after, if_neg (by simpa using hempty), if_pos ((isNumber_iff hempty).mp hnumber)]
      rw [hafter]
      cases numbering <;> simp [Accords, Admits, hnumber, hempty, hne]
    · have hafter : numbering.after name = numbering := by
        rw [after, if_neg (by simpa using hempty), if_neg (mt (isNumber_iff hempty).mpr hnumber)]
      rw [hafter]
      cases numbering <;> simp [Accords, Admits, hnumber, hempty, hne]

/-! ## Filling a template -/

/-- What is left of a template can be filled behind placeholders that are numbered in some way. -/
structure FillableFrom (arguments : Arguments) (numbering : Numbering) (tokens : List Token) :
    Prop where
  named : ∀ name ∈ names tokens, ProperName name
  accords : numbering.Accords (names tokens)
  supplied : ∀ reference ∈ (parts numbering.next tokens).filterMap Part.reference?,
    (arguments.find? reference).isSome = true

theorem fillableFrom_undecided_iff {arguments : Arguments} {tokens : List Token} :
    FillableFrom arguments .undecided tokens ↔ Fillable arguments tokens :=
  ⟨fun ⟨hnamed, haccords, hsupplied⟩ => ⟨hnamed, haccords, hsupplied⟩,
    fun ⟨hnamed, hunmixed, hsupplied⟩ => ⟨hnamed, hunmixed, hsupplied⟩⟩

variable {arguments : Arguments} {rest : List Token}

theorem fillableFrom_placeholder_iff {hname : ∀ c ∈ name, isBrace c = false} :
    FillableFrom arguments numbering (.placeholder name hname :: rest) ↔
      ProperName name ∧ numbering.Admits name ∧
        (arguments.find? (asked numbering.next name)).isSome = true ∧
          FillableFrom arguments (numbering.after name) rest := by
  have hparts (hadmits : numbering.Admits name) :
      parts numbering.next (.placeholder name hname :: rest) =
        .argument (asked numbering.next name) :: parts (numbering.after name).next rest := by
    rw [parts, Numbering.next_after hadmits]
  constructor
  · rintro ⟨hnamed, haccords, hsupplied⟩
    obtain ⟨hproper, hothers⟩ := List.forall_mem_cons.mp hnamed
    obtain ⟨hadmits, hrest⟩ := Numbering.accords_cons.mp haccords
    rw [hparts hadmits] at hsupplied
    obtain ⟨hfirst, hlater⟩ := List.forall_mem_cons.mp hsupplied
    exact ⟨hproper, hadmits, hfirst, hothers, hrest, hlater⟩
  · rintro ⟨hproper, hadmits, hfirst, hothers, hrest, hlater⟩
    refine ⟨List.forall_mem_cons.mpr ⟨hproper, hothers⟩,
      Numbering.accords_cons.mpr ⟨hadmits, hrest⟩, ?_⟩
    rw [hparts hadmits]
    exact List.forall_mem_cons.mpr ⟨hfirst, hlater⟩

/-- Tokens are filled with their text and the references in them, if they can be filled. -/
theorem fill_piecesOf_eq_ok_iff {position : Nat} {tokens : List Token}
    {filled : List Char × List Reference} :
    fill arguments numbering (piecesOf position tokens) = .ok filled ↔
      FillableFrom arguments numbering tokens ∧
        filled = ((parts numbering.next tokens).flatMap (Part.text arguments),
          (parts numbering.next tokens).filterMap Part.reference?) := by
  induction tokens generalizing numbering position filled with
  | nil =>
      have hnil : FillableFrom arguments numbering [] := by
        refine ⟨by simp [names], ?_, by simp [parts]⟩
        cases numbering <;> simp [Numbering.Accords, names]
      rw [piecesOf, fill, and_iff_right hnil, eq_comm, Except.ok.injEq]
      rfl
  | cons token rest ih =>
      cases token with
      | plain c _ | doubled c _ =>
          rw [piecesOf, Token.piece, fill_literal_eq_ok_iff]
          constructor
          · rintro ⟨others, hrest, rfl⟩
            obtain ⟨⟨hnamed, haccords, hsupplied⟩, rfl⟩ := ih.mp hrest
            exact ⟨⟨hnamed, haccords, hsupplied⟩, rfl⟩
          · rintro ⟨⟨hnamed, haccords, hsupplied⟩, rfl⟩
            exact ⟨_, ih.mpr ⟨⟨hnamed, haccords, hsupplied⟩, rfl⟩, rfl⟩
      | placeholder name hname =>
          rw [piecesOf, Token.piece, fill_placeholder_eq_ok_iff, fillableFrom_placeholder_iff]
          constructor
          · rintro ⟨reference, next, value, others, hrefer, hvalue, hrest, rfl⟩
            obtain ⟨hproper, hadmits, rfl, rfl⟩ := refer_eq_ok_iff.mp hrefer
            obtain ⟨hfillable, rfl⟩ := ih.mp hrest
            refine ⟨⟨hproper, hadmits, Option.isSome_of_eq_some hvalue, hfillable⟩, ?_⟩
            rw [parts, ← Numbering.next_after hadmits]
            simp [Part.text, Part.reference?, hvalue]
          · rintro ⟨⟨hproper, hadmits, hsome, hfillable⟩, rfl⟩
            obtain ⟨value, hvalue⟩ := Option.isSome_iff_exists.mp hsome
            refine ⟨_, _, value, _, refer_of_proper hproper hadmits, hvalue,
              ih.mpr ⟨hfillable, rfl⟩, ?_⟩
            rw [parts, ← Numbering.next_after hadmits]
            simp [Part.text, Part.reference?, hvalue]

theorem not_flawed_of_fill {template : List Piece} {filled : List Char × List Reference}
    (h : fill arguments numbering template = .ok filled) (place : Nat) (flaw : Flaw) :
    .flawed place flaw ∉ template := by
  induction template generalizing numbering filled with
  | nil => exact List.not_mem_nil
  | cons piece rest ih =>
      rw [List.mem_cons, not_or]
      cases piece with
      | literal c =>
          obtain ⟨others, hrest, -⟩ := fill_literal_eq_ok_iff.mp h
          exact ⟨by simp, ih hrest⟩
      | flawed position flaw => cases h
      | placeholder position name =>
          obtain ⟨_, _, _, others, _, _, hrest, _⟩ := fill_placeholder_eq_ok_iff.mp h
          exact ⟨by simp, ih hrest⟩

/-- A text is filled as a template that can be filled, with its text and the references in it. -/
theorem fill_pieces_eq_ok_iff {template : List Char} {text : List Char} {used : List Reference} :
    fill arguments .undecided (pieces 0 template) = .ok (text, used) ↔
      ∃ tokens, templateOf tokens = template ∧ Fillable arguments tokens ∧
        text = rendered arguments tokens ∧ used = references tokens := by
  constructor
  · intro h
    obtain ⟨tokens, rfl⟩ := exists_templateOf (not_flawed_of_fill h)
    rw [pieces_templateOf, fill_piecesOf_eq_ok_iff, fillableFrom_undecided_iff, Prod.mk.injEq] at h
    exact ⟨tokens, rfl, h⟩
  · rintro ⟨tokens, rfl, hfillable, rfl, rfl⟩
    rw [pieces_templateOf, fill_piecesOf_eq_ok_iff, fillableFrom_undecided_iff]
    exact ⟨hfillable, rfl⟩

theorem format_eq_ok_iff {formatter : Formatter} {template line : String} :
    formatter.format template arguments = .ok line ↔
      ∃ text used, fill arguments .undecided (pieces 0 template.toList) = .ok (text, used) ∧
        (formatter.strict = true → arguments.unused? used = none) ∧ line = String.ofList text := by
  unfold Formatter.format
  cases hfill : fill arguments .undecided (pieces 0 template.toList) with
  | error fault => cases fault <;> simp
  | ok filled =>
      obtain ⟨text, used⟩ := filled
      cases hstrict : formatter.strict with
      | false => simp [eq_comm]
      | true => cases hunused : arguments.unused? used <;> simp [hunused, eq_comm]

/-- A line is made of a template exactly if the template is a row of tokens, these can be filled
with the arguments, and a strict formatter finds all arguments used. The line is then the text of
the tokens with the arguments in it, and there is only one such row. -/
theorem line_is_made_iff_template_is_filled (formatter : Formatter) (template line : String)
    (arguments : Arguments) :
    (formatter.format template arguments = .ok line ↔
      ∃ tokens, templateOf tokens = template.toList ∧ Fillable arguments tokens ∧
        (formatter.strict = true → arguments.Exhausted (references tokens)) ∧
          line = String.ofList (rendered arguments tokens)) ∧
      Function.Injective templateOf := by
  refine ⟨?_, templateOf_injective⟩
  rw [format_eq_ok_iff]
  constructor
  · rintro ⟨text, used, hfill, hstrict, rfl⟩
    obtain ⟨tokens, htokens, hfillable, rfl, rfl⟩ := fill_pieces_eq_ok_iff.mp hfill
    exact ⟨tokens, htokens, hfillable,
      fun h => Arguments.unused?_eq_none_iff.mp (hstrict h), rfl⟩
  · rintro ⟨tokens, htokens, hfillable, hstrict, rfl⟩
    exact ⟨_, _, fill_pieces_eq_ok_iff.mpr ⟨tokens, htokens, hfillable, rfl, rfl⟩,
      fun h => Arguments.unused?_eq_none_iff.mpr (hstrict h), rfl⟩

/-- Braces that meet a placeholder, and braces in the arguments. -/
theorem line_is_made_iff_template_is_filled_braces :
    Formatter.format ⟨true⟩ "\x7b\x7b\x7b0\x7d\x7d\x7d \x7bbus\x7d"
        ⟨["\x7b1\x7d"], [("bus", "\x7d\x7d")]⟩ =
      .ok "\x7b\x7b1\x7d\x7d \x7d\x7d" := by
  have hnumber : ProperName ['0'] := Or.inr (Or.inl ⟨⟨by decide, by simp⟩, by decide⟩)
  have hkeyword : ProperName ['b', 'u', 's'] := Or.inr (Or.inr (by decide +kernel))
  have hnames : ∀ name ∈ [['0'], ['b', 'u', 's']], ProperName name := by
    simp [hnumber, hkeyword]
  refine (line_is_made_iff_template_is_filled _ _ _ _).1.mpr
    ⟨[.doubled '\x7b' rfl, .placeholder ['0'] (by simp [isBrace]), .doubled '\x7d' rfl,
      .plain ' ' rfl, .placeholder ['b', 'u', 's'] (by simp [isBrace])],
      by decide, ?_, ?_, by decide⟩
  · exact ⟨hnames, fun hempty => absurd hempty (by decide), by decide⟩
  · refine fun _ => ⟨by decide, ?_⟩
    intro index hindex
    obtain rfl := Nat.lt_one_iff.mp hindex
    exact ⟨"bus", by decide, by decide⟩

end GroundLink.Command
