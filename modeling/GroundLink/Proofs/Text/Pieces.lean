import GroundLink.Text.JsonText

/-! # Telling pieces apart

Two texts that are made of pieces in the same way are the same only if their pieces are, provided
that each piece shows where it ends: by its last character, or by being a word in front of something
that belongs to no word.
-/

namespace GroundLink.Text

/-- Whether a text begins with nothing that could belong to a word. -/
def Breaks (isWord : Char → Bool) (text : List Char) : Prop :=
  ∀ c ∈ text.head?, isWord c = false

variable {isWord : Char → Bool}

theorem breaks_cons {c : Char} (h : isWord c = false) (rest : List Char) :
    Breaks isWord (c :: rest) := by
  intro head hhead
  rwa [← Option.some_inj.mp hhead]

theorem takeWhile_of_breaks {word rest : List Char} (hword : ∀ c ∈ word, isWord c = true)
    (hrest : Breaks isWord rest) : (word ++ rest).takeWhile isWord = word := by
  rw [List.takeWhile_append_of_pos hword]
  cases rest with
  | nil => exact List.append_nil word
  | cons c rest => rw [List.takeWhile_cons_of_neg (by simp [hrest c rfl]), List.append_nil]

/-- A word ends where the text breaks. -/
theorem word_append_inj {first second restFirst restSecond : List Char}
    (hfirst : ∀ c ∈ first, isWord c = true) (hsecond : ∀ c ∈ second, isWord c = true)
    (hrestFirst : Breaks isWord restFirst) (hrestSecond : Breaks isWord restSecond)
    (h : first ++ restFirst = second ++ restSecond) :
    first = second ∧ restFirst = restSecond := by
  have hwords := congrArg (List.takeWhile isWord) h
  rw [takeWhile_of_breaks hfirst hrestFirst, takeWhile_of_breaks hsecond hrestSecond] at hwords
  exact ⟨hwords, List.append_cancel_left (hwords ▸ h)⟩

section Rows

variable {α : Type} {first second : α → List Char} {Same : α → Prop} {items : List α}

/-- Pieces that show where they end are told apart one behind the other. -/
theorem flatMap_append_inj
    (hitem : ∀ item ∈ items, ∀ restFirst restSecond,
      first item ++ restFirst = second item ++ restSecond → Same item ∧ restFirst = restSecond)
    {restFirst restSecond : List Char}
    (h : items.flatMap first ++ restFirst = items.flatMap second ++ restSecond) :
    (∀ item ∈ items, Same item) ∧ restFirst = restSecond := by
  induction items with
  | nil => exact ⟨nofun, h⟩
  | cons item rest ih =>
      obtain ⟨hhead, htail⟩ := List.forall_mem_cons.mp hitem
      rw [List.flatMap_cons, List.flatMap_cons, List.append_assoc, List.append_assoc] at h
      obtain ⟨hsame, hrest⟩ := hhead _ _ h
      obtain ⟨hothers, hend⟩ := ih htail hrest
      exact ⟨List.forall_mem_cons.mpr ⟨hsame, hothers⟩, hend⟩

/-- Pieces with a separator between them, and another character behind the last one, are told apart
if each of them ends where one of the two comes. -/
theorem intercalate_append_inj {separator stop : Char}
    (hitem : ∀ item ∈ items, ∀ restFirst restSecond,
      Breaks (fun c => c != separator && c != stop) restFirst →
      Breaks (fun c => c != separator && c != stop) restSecond →
      first item ++ restFirst = second item ++ restSecond → Same item ∧ restFirst = restSecond)
    {restFirst restSecond : List Char}
    (h : [separator].intercalate (items.map first) ++ stop :: restFirst =
      [separator].intercalate (items.map second) ++ stop :: restSecond) :
    (∀ item ∈ items, Same item) ∧ restFirst = restSecond := by
  have hstop : ∀ rest, Breaks (fun c => c != separator && c != stop) (stop :: rest) :=
    fun rest => breaks_cons (by simp) rest
  induction items with
  | nil => exact ⟨nofun, (List.cons.inj h).2⟩
  | cons item rest ih =>
      obtain ⟨hhead, htail⟩ := List.forall_mem_cons.mp hitem
      cases rest with
      | nil =>
          simp only [List.map_cons, List.map_nil, List.intercalate_singleton] at h
          obtain ⟨hsame, hrest⟩ := hhead _ _ (hstop _) (hstop _) h
          exact ⟨List.forall_mem_singleton.mpr hsame, (List.cons.inj hrest).2⟩
      | cons next others =>
          simp only [List.map_cons, List.intercalate_cons_cons, List.append_assoc,
            List.singleton_append] at h
          obtain ⟨hsame, hrest⟩ := hhead _ _ (breaks_cons (by simp) _) (breaks_cons (by simp) _) h
          obtain ⟨hothers, hend⟩ := ih htail (List.cons.inj hrest).2
          exact ⟨List.forall_mem_cons.mpr ⟨hsame, hothers⟩, hend⟩

/-- Members of an object that have the same keys are told apart by their values, if these end in
front of a comma or a closing brace. -/
theorem object_append_inj {key valueFirst valueSecond : α → String}
    (hvalue : ∀ item ∈ items, ∀ restFirst restSecond,
      Breaks (fun c => c != ',' && c != '\x7d') restFirst →
      Breaks (fun c => c != ',' && c != '\x7d') restSecond →
      (valueFirst item).toList ++ restFirst = (valueSecond item).toList ++ restSecond →
      Same item ∧ restFirst = restSecond)
    {restFirst restSecond : List Char}
    (h : (JsonText.object (items.map fun item => (key item, valueFirst item))).toList ++ restFirst =
      (JsonText.object (items.map fun item => (key item, valueSecond item))).toList ++
        restSecond) :
    (∀ item ∈ items, Same item) ∧ restFirst = restSecond := by
  simp only [JsonText.object, String.toList_append, String.toList_intercalate, List.map_map,
    List.append_assoc] at h
  apply intercalate_append_inj _ (List.append_cancel_left h)
  intro item hitem restFirst restSecond hrestFirst hrestSecond hmember
  apply hvalue item hitem _ _ hrestFirst hrestSecond
  simp only [Function.comp_apply, String.toList_append, List.append_assoc] at hmember
  exact List.append_cancel_left (List.append_cancel_left hmember)

end Rows

end GroundLink.Text
