import GroundLink.Command.Template

/-! # Arguments that are used

References go to positional arguments by their index and to entries of keywords by their name. Of
several entries under one name only the first can be referred to. What is reported as unused is the
first positional argument that no reference goes to, or else the first such entry.
-/

namespace GroundLink.Command.Arguments

variable {arguments : Arguments} {used : List Reference}

/-- A reference goes to the entry of an index: to its name, and no entry before it has this name. -/
def UsesKeyword (arguments : Arguments) (used : List Reference) (index : Nat) : Prop :=
  ∃ name, .keyword name ∈ used ∧ arguments.keywords.findIdx? (·.1 == name) = some index

/-- References go to all arguments. -/
structure Exhausted (arguments : Arguments) (used : List Reference) : Prop where
  positional : ∀ index < arguments.positional.length, .position index ∈ used
  keywords : ∀ index < arguments.keywords.length, arguments.UsesKeyword used index

/-- The first argument that no reference goes to, as it is reported. -/
inductive FirstUnused (arguments : Arguments) (used : List Reference) : Option String → Prop
  | none (hexhausted : arguments.Exhausted used) : FirstUnused arguments used none
  | positional (index : Nat) (hindex : index < arguments.positional.length)
      (hunused : .position index ∉ used) (hlower : ∀ lower < index, .position lower ∈ used) :
      FirstUnused arguments used (some (Numeral.decimal index))
  | keyword (index : Nat) (name value : String)
      (hpositional : ∀ other < arguments.positional.length, .position other ∈ used)
      (hentry : arguments.keywords[index]? = some (name, value))
      (hunused : ¬ arguments.UsesKeyword used index)
      (hlower : ∀ lower < index, arguments.UsesKeyword used lower) :
      FirstUnused arguments used (some name)

/-- An entry can be referred to if its name is a new one. -/
theorem usesKeyword_iff {before after : List (String × String)} {name value : String}
    (hkeywords : arguments.keywords = before ++ (name, value) :: after) :
    arguments.UsesKeyword used before.length ↔
      name ∉ before.map Prod.fst ∧ .keyword name ∈ used := by
  have hfound : ∀ other, arguments.keywords.findIdx? (·.1 == other) = some before.length ↔
      other = name ∧ name ∉ before.map Prod.fst := by
    intro other
    rw [hkeywords, List.findIdx?_append, List.findIdx?_cons]
    cases hearlier : before.findIdx? (·.1 == other) with
    | none =>
        have hnew : other ∉ before.map Prod.fst := by
          intro hmem
          obtain ⟨entry, hentry, rfl⟩ := List.mem_map.mp hmem
          have hother := List.findIdx?_eq_none_iff.mp hearlier entry hentry
          rw [beq_self_eq_true] at hother
          cases hother
        by_cases hname : name = other
        · subst hname
          simp [hnew]
        · have hhead : ¬ ((name, value).1 == other) = true := by simpa using hname
          rw [if_neg hhead, Option.none_or]
          refine iff_of_false ?_ fun h => hname h.1.symm
          intro hindex
          obtain ⟨index, hlater, hsum⟩ := Option.map_eq_some_iff.mp hindex
          obtain ⟨later, -, rfl⟩ := Option.map_eq_some_iff.mp hlater
          omega
    | some index =>
        obtain ⟨hindex, hname, -⟩ := List.findIdx?_eq_some_iff_getElem.mp hearlier
        have hmem : before[index].1 ∈ before.map Prod.fst :=
          List.mem_map_of_mem (List.getElem_mem hindex)
        rw [eq_of_beq hname] at hmem
        constructor
        · intro h
          cases h
          exact absurd hindex (Nat.lt_irrefl _)
        · rintro ⟨rfl, hnew⟩
          exact absurd hmem hnew
  simp only [UsesKeyword, hfound]
  constructor
  · rintro ⟨other, hused, rfl, hnew⟩
    exact ⟨hnew, hused⟩
  · rintro ⟨hnew, hused⟩
    exact ⟨name, hused, rfl, hnew⟩

/-- Entries are gone through with the names before them, all of which are referred to. -/
theorem firstUnused_unusedKeyword? {seen : List String} {before after : List (String × String)}
    (hpositional : ∀ index < arguments.positional.length, .position index ∈ used)
    (hkeywords : arguments.keywords = before ++ after)
    (hseen : ∀ name, name ∈ seen ↔ name ∈ before.map Prod.fst)
    (hbefore : ∀ index < before.length, arguments.UsesKeyword used index) :
    arguments.FirstUnused used (unusedKeyword? used seen after) := by
  induction after generalizing before seen with
  | nil => exact .none ⟨hpositional, by simpa [hkeywords] using hbefore⟩
  | cons entry rest ih =>
      obtain ⟨name, value⟩ := entry
      have huses : arguments.UsesKeyword used before.length ↔ _ := usesKeyword_iff hkeywords
      rw [unusedKeyword?]
      split
      next hunused =>
        refine .keyword before.length name value hpositional (by simp [hkeywords]) ?_ hbefore
        rw [huses, ← hseen]
        exact fun ⟨hnew, hused⟩ => hunused.elim hnew (absurd hused)
      next hentry =>
        obtain ⟨hnew, hused⟩ := not_or.mp hentry
        have hsplit : arguments.keywords = before ++ [(name, value)] ++ rest := by
          rw [hkeywords, List.append_cons]
        refine ih hsplit ?_ ?_
        · intro other
          simp [hseen, or_comm]
        · intro index hindex
          rw [List.length_append, List.length_singleton] at hindex
          rcases Nat.lt_succ_iff_lt_or_eq.mp hindex with hlower | rfl
          · exact hbefore index hlower
          · exact huses.mpr ⟨mt (hseen name).mpr hnew, Decidable.not_not.mp hused⟩

theorem firstUnused_unused? (arguments : Arguments) (used : List Reference) :
    arguments.FirstUnused used (arguments.unused? used) := by
  unfold unused?
  split
  next index hfound =>
    obtain ⟨hunused, hindex, hlower⟩ := List.find?_range_eq_some.mp hfound
    refine .positional index (List.mem_range.mp hindex) (by simpa using hunused) ?_
    intro lower hlt
    simpa using hlower lower hlt
  next hfound =>
    have hpositional : ∀ index < arguments.positional.length, .position index ∈ used := by
      simpa using List.find?_range_eq_none.mp hfound
    have hkeywords : arguments.keywords = [] ++ arguments.keywords := rfl
    exact firstUnused_unusedKeyword? hpositional hkeywords (by simp) (by simp)

theorem unused?_eq_none_iff : arguments.unused? used = none ↔ arguments.Exhausted used := by
  have hfirst := arguments.firstUnused_unused? used
  constructor
  · intro h
    rw [h] at hfirst
    cases hfirst with
    | none hexhausted => exact hexhausted
  · intro hexhausted
    cases hresult : arguments.unused? used with
    | none => rfl
    | some argument =>
        rw [hresult] at hfirst
        cases hfirst with
        | positional index hindex hunused =>
            exact absurd (hexhausted.positional index hindex) hunused
        | keyword index _ value _ hentry hunused =>
            have hindex : index < arguments.keywords.length :=
              (List.getElem?_eq_some_iff.mp hentry).1
            exact absurd (hexhausted.keywords index hindex) hunused

end GroundLink.Command.Arguments
