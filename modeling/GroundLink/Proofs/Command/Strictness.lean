import GroundLink.Proofs.Command.Rendering
import Mathlib.Data.List.Basic

/-! # Strict and lenient formatters

Both go through a template in the same way. A strict formatter then also looks for an argument that
no reference goes to; a lenient one does not mind, and so it does not notice arguments behind those
that are asked for.
-/

namespace GroundLink.Command

variable {arguments : Arguments} {tokens : List Token} {template text : String}

namespace Arguments

/-- All that `arguments` supplies is supplied by `more` too. -/
def Supplies (more arguments : Arguments) : Prop :=
  ∀ reference value, arguments.find? reference = some value → more.find? reference = some value

/-- What is put behind the arguments hides none of them. -/
theorem supplies_append (arguments : Arguments) (positional : List String)
    (keywords : List (String × String)) :
    Supplies ⟨arguments.positional ++ positional, arguments.keywords ++ keywords⟩ arguments := by
  intro reference value h
  cases reference with
  | position index =>
      have hindex : index < arguments.positional.length := (List.getElem?_eq_some_iff.mp h).1
      exact (List.getElem?_append_left hindex).trans h
  | keyword name =>
      rw [find?, List.lookup_append, show arguments.keywords.lookup name = some value from h]
      rfl

end Arguments

variable {more : Arguments}

theorem Fillable.of_supplies (hsupplies : more.Supplies arguments)
    (hfillable : Fillable arguments tokens) : Fillable more tokens := by
  refine ⟨hfillable.named, hfillable.unmixed, fun reference hreference => ?_⟩
  obtain ⟨value, hvalue⟩ := Option.isSome_iff_exists.mp (hfillable.supplied reference hreference)
  exact Option.isSome_of_eq_some (hsupplies reference value hvalue)

/-- The text shows what is asked for and nothing else of the arguments. -/
theorem rendered_of_supplies (hsupplies : more.Supplies arguments)
    (hfillable : Fillable arguments tokens) : rendered more tokens = rendered arguments tokens := by
  refine List.flatMap_congr fun part hpart => ?_
  cases part with
  | literal c => rfl
  | argument reference =>
      have hreference : reference ∈ references tokens := List.mem_filterMap.mpr ⟨_, hpart, rfl⟩
      obtain ⟨value, hvalue⟩ :=
        Option.isSome_iff_exists.mp (hfillable.supplied reference hreference)
      rw [Part.text, Part.text, hvalue, hsupplies reference value hvalue]

namespace Formatter

/-- A lenient formatter fails only on what a strict one fails on before it looks for unused
arguments. -/
theorem strict_of_lenient_error {error : FormatError}
    (h : format ⟨false⟩ template arguments = .error error) :
    format ⟨true⟩ template arguments = .error error := by
  unfold format at h ⊢
  cases hfill : fill arguments .undecided (pieces 0 template.toList) with
  | error fault =>
      rw [hfill] at h
      cases fault <;> exact h
  | ok filled =>
      rw [hfill] at h
      cases h

theorem exists_tokens_of_lenient (h : format ⟨false⟩ template arguments = .ok text) :
    ∃ tokens, templateOf tokens = template.toList ∧ Fillable arguments tokens ∧
      text = String.ofList (rendered arguments tokens) := by
  obtain ⟨line, used, hfill, -, rfl⟩ := format_eq_ok_iff.mp h
  obtain ⟨tokens, htokens, hfillable, rfl, -⟩ := fill_pieces_eq_ok_iff.mp hfill
  exact ⟨tokens, htokens, hfillable, rfl⟩

theorem lenient_of_fillable (htokens : templateOf tokens = template.toList)
    (hfillable : Fillable arguments tokens) :
    format ⟨false⟩ template arguments = .ok (String.ofList (rendered arguments tokens)) :=
  format_eq_ok_iff.mpr ⟨_, _, fill_pieces_eq_ok_iff.mpr ⟨tokens, htokens, hfillable, rfl, rfl⟩,
    fun hstrict => absurd hstrict Bool.false_ne_true, rfl⟩

theorem strict_of_fillable (htokens : templateOf tokens = template.toList)
    (hfillable : Fillable arguments tokens) :
    format ⟨true⟩ template arguments =
      match arguments.unused? (references tokens) with
      | some argument => .error (.unusedArgument template argument)
      | none => .ok (String.ofList (rendered arguments tokens)) := by
  have hfill : fill arguments .undecided (pieces 0 template.toList) =
      .ok (rendered arguments tokens, references tokens) :=
    fill_pieces_eq_ok_iff.mpr ⟨tokens, htokens, hfillable, rfl, rfl⟩
  rw [format, hfill]
  rfl

theorem lenient_append (h : format ⟨false⟩ template arguments = .ok text)
    (positional : List String) (keywords : List (String × String)) :
    format ⟨false⟩ template
      ⟨arguments.positional ++ positional, arguments.keywords ++ keywords⟩ = .ok text := by
  have hsupplies := arguments.supplies_append positional keywords
  obtain ⟨tokens, htokens, hfillable, rfl⟩ := exists_tokens_of_lenient h
  rw [lenient_of_fillable htokens (hfillable.of_supplies hsupplies),
    rendered_of_supplies hsupplies hfillable]

/-- Strictness is a matter of unused arguments only: where a lenient formatter fails, a strict one
fails in the same way, and where it makes a text, the strict one makes this text or reports the
first argument that the template does not refer to. The lenient formatter makes the same text with
more arguments. -/
theorem strictness_only_finds_unused_arguments (template : String) (arguments : Arguments) :
    (∀ error, format ⟨false⟩ template arguments = .error error →
      format ⟨true⟩ template arguments = .error error) ∧
    ∀ text, format ⟨false⟩ template arguments = .ok text →
      (∃ tokens, templateOf tokens = template.toList ∧
        (arguments.Exhausted (references tokens) →
          format ⟨true⟩ template arguments = .ok text) ∧
        (¬ arguments.Exhausted (references tokens) →
          ∃ argument, arguments.FirstUnused (references tokens) (some argument) ∧
            format ⟨true⟩ template arguments = .error (.unusedArgument template argument))) ∧
      ∀ positional keywords,
        format ⟨false⟩ template
          ⟨arguments.positional ++ positional, arguments.keywords ++ keywords⟩ = .ok text := by
  refine ⟨fun error => strict_of_lenient_error, fun text h => ⟨?_, lenient_append h⟩⟩
  obtain ⟨tokens, htokens, hfillable, rfl⟩ := exists_tokens_of_lenient h
  have hstrict := strict_of_fillable htokens hfillable
  have hfirst := arguments.firstUnused_unused? (references tokens)
  refine ⟨tokens, htokens, fun hexhausted => ?_, fun hunused => ?_⟩
  · rw [hstrict, Arguments.unused?_eq_none_iff.mpr hexhausted]
  · obtain ⟨argument, hargument⟩ :=
      Option.ne_none_iff_exists'.mp (mt Arguments.unused?_eq_none_iff.mp hunused)
    rw [hargument] at hfirst hstrict
    exact ⟨argument, hfirst, hstrict⟩

/-- Of two entries under one name the second is unused, and it is reported by this name. -/
theorem strictness_only_finds_unused_arguments_repeated :
    format ⟨false⟩ "\x7bbus\x7d" ⟨["a"], [("bus", "x"), ("bus", "y"), ("mode", "w")]⟩ = .ok "x" ∧
      format ⟨true⟩ "\x7bbus\x7d" ⟨[], [("bus", "x"), ("bus", "y")]⟩ =
        .error (.unusedArgument "\x7bbus\x7d" "bus") := by
  have htokens :
      templateOf [.placeholder ['b', 'u', 's'] (by simp [isBrace])] = "\x7bbus\x7d".toList := by
    decide
  have hproper : ∀ name ∈ [['b', 'u', 's']], ProperName name := by
    rw [List.forall_mem_singleton]
    exact Or.inr (Or.inr (by decide +kernel))
  have hlenient : format ⟨false⟩ "\x7bbus\x7d" ⟨[], [("bus", "x"), ("bus", "y")]⟩ = .ok "x" :=
    lenient_of_fillable htokens ⟨hproper, fun hempty => absurd hempty (by decide), by decide⟩
  obtain ⟨⟨tokens, hread, -, hstrict⟩, hmore⟩ :=
    (strictness_only_finds_unused_arguments _ _).2 _ hlenient
  obtain rfl := templateOf_injective (hread.trans htokens.symm)
  refine ⟨hmore ["a"] [("mode", "w")], ?_⟩
  have hunused : ¬ Arguments.UsesKeyword ⟨[], [("bus", "x"), ("bus", "y")]⟩ [.keyword "bus"] 1 := by
    rintro ⟨name, hname, hfound⟩
    cases List.mem_singleton.mp hname
    cases hfound
  obtain ⟨argument, hfirst, herror⟩ :=
    hstrict fun hexhausted => hunused (hexhausted.keywords 1 (by decide))
  rw [herror]
  cases hfirst with
  | positional index hindex => cases hindex
  | keyword index _ value _ hentry =>
      have hmem : (argument, value) ∈ [("bus", "x"), ("bus", "y")] := List.mem_of_getElem? hentry
      have hname : argument = "bus" := by
        simp only [List.mem_cons, Prod.mk.injEq, List.not_mem_nil, or_false] at hmem
        exact hmem.elim And.left And.left
      rw [hname]

end Formatter

end GroundLink.Command
