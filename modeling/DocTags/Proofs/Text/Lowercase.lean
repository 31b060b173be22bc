import DocTags.Text.Lowercase

/-!
# What lower-casing leaves in upper case

Some upper-case characters have no lower-case counterpart, as the double-struck letters of
mathematics. They are all that is in upper case once a text is lower-cased: no counterpart of a
character is itself in upper case, wherever the character stands.
-/

namespace DocTags.Text

/-- An upper-case character that stays as it is when it is lower-cased. -/
def LastingCapital (c : Char) : Prop := isUppercase c = true ∧ lower [c] = [c]

instance (c : Char) : Decidable (LastingCapital c) :=
  inferInstanceAs (Decidable (isUppercase c = true ∧ lower [c] = [c]))

/-! ### Counterparts -/

def CaseShift.image (shift : CaseShift) : CodeRange where
  first := (shift.first + shift.offset).toNat
  last := (shift.last + shift.offset).toNat
  stride := shift.stride

theorem CaseShift.image_contains {shift : CaseShift} {code : Nat}
    (counted : 0 ≤ shift.first + shift.offset) (inside : shift.contains code = true) :
    shift.image.contains (code + shift.offset).toNat = true := by
  obtain ⟨atLeast, atMost, steps⟩ := CodeRange.contains_iff.mp inside
  dsimp only at atLeast atMost steps
  have distance : (code + shift.offset).toNat - (shift.first + shift.offset).toNat =
      code - shift.first := by omega
  rw [CodeRange.contains_iff]
  dsimp only [image]
  refine ⟨by omega, by omega, ?_⟩
  rw [distance, steps]

theorem lowercaseShifts_counted :
    ∀ shift ∈ lowercaseShifts, 0 ≤ shift.first + shift.offset := by
  decide +kernel

theorem lowercaseShifts_apart :
    areApart (lowercaseShifts.map CaseShift.image) uppercaseRanges = true := by
  decide +kernel

theorem isUppercase_ofNat {code : Nat}
    (outside : ∀ range ∈ uppercaseRanges, range.contains code = false) :
    isUppercase (Char.ofNat code) = false := by
  by_cases valid : code.isValidChar
  · have known : Char.ofNat code = Char.ofNatAux code valid := dif_pos valid
    rw [known, isUppercase, isIn, List.any_eq_false]
    intro range member
    exact Bool.eq_false_iff.mp (outside range member)
  -- The code belongs to no character, and the first of all characters stands in for it.
  · have absent : Char.ofNat code = '\x00' := dif_neg valid
    rw [absent]
    decide +kernel

theorem isUppercase_shifted {shift : CaseShift} {code : Nat} (listed : shift ∈ lowercaseShifts)
    (inside : shift.contains code = true) :
    isUppercase (Char.ofNat (code + shift.offset).toNat) = false := by
  have counted := lowercaseShifts_counted shift listed
  exact isUppercase_ofNat (contains_eq_false_of_areApart lowercaseShifts_apart
    (List.mem_map_of_mem listed) (shift.image_contains counted inside))

/-! ### Single characters -/

theorem lowerChar_eq_or (c : Char) :
    lowerChar c = [c] ∨ (lowerChar c).any isUppercase = false := by
  unfold lowerChar
  split
  · exact .inr (by decide +kernel)
  · split
    · rename_i shift found
      have inside : shift.contains c.toNat = true := by simpa using List.find?_some found
      have lowered := isUppercase_shifted (List.mem_of_find?_eq_some found) inside
      exact .inr (by simp [lowered])
    · exact .inl rfl

/-- What a character becomes between the characters passed, nearest first, and those to come. -/
def lowerBetween (before : List Char) (c : Char) (rest : List Char) : List Char :=
  if c.toNat == 0x3A3 then
    [Char.ofNat (if meetsCased before && !meetsCased rest then 0x3C2 else 0x3C3)]
  else lowerChar c

theorem lowerAfter_cons (before : List Char) (c : Char) (rest : List Char) :
    lowerAfter before (c :: rest) = lowerBetween before c rest ++ lowerAfter (c :: before) rest :=
  rfl

theorem lower_singleton (c : Char) : lower [c] = lowerBetween [] c [] := by
  rw [lower, lowerAfter_cons, lowerAfter, List.append_nil]

theorem any_isUppercase_lowerBetween (before : List Char) (c : Char) (rest : List Char) :
    (lowerBetween before c rest).any isUppercase = true ↔ LastingCapital c := by
  rw [LastingCapital, lower_singleton]
  -- Only a capital sigma depends on what stands around it, and neither of its forms is a capital.
  by_cases sigma : c.toNat = 0x3A3
  · obtain rfl : c = 'Σ' := Char.toNat_inj.mp sigma
    have lost : (lowerBetween before 'Σ' rest).any isUppercase = false := by
      unfold lowerBetween
      cases meetsCased before && !meetsCased rest <;> decide +kernel
    rw [lost]
    decide +kernel
  · have alone (before rest : List Char) : lowerBetween before c rest = lowerChar c := by
      simp [lowerBetween, sigma]
    rw [alone before rest, alone [] []]
    rcases lowerChar_eq_or c with stays | lost
    · simp [stays]
    · rw [lost]
      refine ⟨nofun, ?_⟩
      rintro ⟨upper, stays⟩
      simp [stays, upper] at lost

/-! ### Whole texts -/

theorem any_isUppercase_lowerAfter (before cs : List Char) :
    (lowerAfter before cs).any isUppercase = true ↔ ∃ c ∈ cs, LastingCapital c := by
  induction cs generalizing before with
  | nil => simp [lowerAfter]
  | cons c rest ih =>
    rw [lowerAfter_cons, List.any_append, Bool.or_eq_true, any_isUppercase_lowerBetween, ih]
    simp only [List.mem_cons, exists_eq_or_imp]

theorem any_isUppercase_lowered (name : String) :
    (lowered name).toList.any isUppercase = true ↔ ∃ c ∈ name.toList, LastingCapital c := by
  rw [lowered, String.toList_ofList, lower, any_isUppercase_lowerAfter]

end DocTags.Text
