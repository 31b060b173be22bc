/-!
Texts that say nothing when they are empty.
-/

namespace DocTags.Text

/-- A text that is not empty. -/
def nonempty? (text : String) : Option String := if text.isEmpty then none else some text

theorem nonempty?_eq_none_iff {text : String} : nonempty? text = none ↔ text = "" := by
  simp [nonempty?]

theorem nonempty?_eq_some_iff {text other : String} :
    nonempty? text = some other ↔ text = other ∧ other ≠ "" := by
  rw [nonempty?, Option.ite_none_left_eq_some, String.isEmpty_iff, Option.some.injEq]
  constructor
  · rintro ⟨filled, rfl⟩
    exact ⟨rfl, filled⟩
  · rintro ⟨rfl, filled⟩
    exact ⟨filled, rfl⟩

theorem getD_bind_nonempty? (text : Option String) :
    (text.bind nonempty?).getD "" = text.getD "" := by
  cases text with
  | none => rfl
  | some text =>
    by_cases empty : text = ""
    · rw [Option.bind_some, nonempty?_eq_none_iff.mpr empty, empty]
      rfl
    · rw [Option.bind_some, nonempty?_eq_some_iff.mpr ⟨rfl, empty⟩]

end DocTags.Text
