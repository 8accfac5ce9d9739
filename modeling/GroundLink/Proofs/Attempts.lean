import Mathlib.Data.List.Forall2

/-! # Rows of attempts

The items of a row are attempted in order. All of them succeed, each with its own value, or the
first one that fails decides how the row ends.
-/

namespace GroundLink

variable {α β ε : Type}

theorem bind_eq_ok_iff {first : Except ε α} {next : α → Except ε β} {value : β} :
    first >>= next = .ok value ↔ ∃ found, first = .ok found ∧ next found = .ok value := by
  cases first with
  | error error => simp [bind, Except.bind]
  | ok found => simp [bind, Except.bind]

theorem bind_eq_error_iff {first : Except ε α} {next : α → Except ε β} {error : ε} :
    first >>= next = .error error ↔
      first = .error error ∨ ∃ found, first = .ok found ∧ next found = .error error := by
  cases first with
  | error other => simp [bind, Except.bind]
  | ok found => simp [bind, Except.bind]

variable {attempt : α → Except ε β} {items : List α}

theorem mapM_eq_ok_iff {values : List β} :
    items.mapM attempt = .ok values ↔
      List.Forall₂ (fun item value => attempt item = .ok value) items values := by
  induction items generalizing values with
  | nil => simp [pure, Except.pure, eq_comm]
  | cons item rest ih =>
      rw [List.mapM_cons, List.forall₂_cons_left_iff, bind_eq_ok_iff]
      constructor
      · rintro ⟨value, hvalue, hrest⟩
        obtain ⟨others, hothers, heq⟩ := bind_eq_ok_iff.mp hrest
        cases heq
        exact ⟨value, others, hvalue, ih.mp hothers, rfl⟩
      · rintro ⟨value, others, hvalue, hothers, rfl⟩
        exact ⟨value, hvalue, bind_eq_ok_iff.mpr ⟨others, ih.mpr hothers, rfl⟩⟩

/-- What every value shows of its item, the values show of the items. -/
theorem map_eq_of_mapM {γ : Type} {values : List β} (h : items.mapM attempt = .ok values)
    {ofItem : α → γ} {ofValue : β → γ}
    (hview : ∀ item value, attempt item = .ok value → ofItem item = ofValue value) :
    items.map ofItem = values.map ofValue := by
  have hviews := (mapM_eq_ok_iff.mp h).imp hview
  rwa [← List.forall₂_map_right_iff, ← List.forall₂_map_left_iff (f := ofItem),
    List.forall₂_eq_eq_eq] at hviews

/-- Every item in front of the one that failed has had its value. -/
theorem mapM_eq_error_iff {error : ε} :
    items.mapM attempt = .error error ↔
      ∃ before item after, items = before ++ item :: after ∧
        (∀ other ∈ before, ∃ value, attempt other = .ok value) ∧ attempt item = .error error := by
  induction items with
  | nil => simp [pure, Except.pure]
  | cons item rest ih =>
      rw [List.mapM_cons, bind_eq_error_iff]
      constructor
      · rintro (hitem | ⟨value, hvalue, hrest⟩)
        · exact ⟨[], item, rest, rfl, nofun, hitem⟩
        · have hfailed : rest.mapM attempt = .error error := by
            rcases bind_eq_error_iff.mp hrest with hfailed | ⟨_, _, hnone⟩
            · exact hfailed
            · cases hnone
          obtain ⟨before, failed, after, rfl, hbefore, herror⟩ := ih.mp hfailed
          exact ⟨item :: before, failed, after, rfl,
            List.forall_mem_cons.mpr ⟨⟨value, hvalue⟩, hbefore⟩, herror⟩
      · rintro ⟨_ | ⟨first, before⟩, failed, after, heq, hbefore, herror⟩
        · obtain ⟨rfl, rfl⟩ := List.cons.inj heq
          exact .inl herror
        · obtain ⟨rfl, rfl⟩ := List.cons.inj heq
          obtain ⟨⟨value, hvalue⟩, hothers⟩ := List.forall_mem_cons.mp hbefore
          have hfailed := ih.mpr ⟨before, failed, after, rfl, hothers, herror⟩
          exact .inr ⟨value, hvalue, bind_eq_error_iff.mpr (.inl hfailed)⟩

end GroundLink
