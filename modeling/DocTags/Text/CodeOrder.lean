/-!
The order of texts by code point: the first character in which two texts differ decides, and a text
comes before its continuations.
-/

namespace DocTags.Text

/-- Whether the first text does not come after the second. -/
def notAfter : List Char → List Char → Bool
  | [], _ => true
  | _ :: _, [] => false
  | a :: as, b :: bs =>
    if a.toNat < b.toNat then true
    else if b.toNat < a.toNat then false
    else notAfter as bs

/-- Of two texts, one does not come after the other. -/
theorem notAfter_total (as bs : List Char) : (notAfter as bs || notAfter bs as) = true := by
  induction as generalizing bs with
  | nil => simp [notAfter]
  | cons a as ih =>
    cases bs with
    | nil => simp [notAfter]
    | cons b bs =>
      simp only [notAfter]
      split
      · rfl
      · split
        · rfl
        · exact ih bs

theorem notAfter_trans (as bs cs : List Char) (first : notAfter as bs = true)
    (second : notAfter bs cs = true) : notAfter as cs = true := by
  induction as generalizing bs cs with
  | nil => simp [notAfter]
  | cons a as ih =>
    cases bs with
    | nil => simp [notAfter] at first
    | cons b bs =>
      cases cs with
      | nil => simp [notAfter] at second
      | cons c cs =>
        simp only [notAfter] at first second ⊢
        by_cases ab : a.toNat < b.toNat
        · by_cases bc : b.toNat < c.toNat
          · simp [show a.toNat < c.toNat by omega]
          · by_cases cb : c.toNat < b.toNat
            · simp [bc, cb] at second
            · simp [show a.toNat < c.toNat by omega]
        · by_cases ba : b.toNat < a.toNat
          · simp [ab, ba] at first
          · by_cases bc : b.toNat < c.toNat
            · simp [show a.toNat < c.toNat by omega]
            · by_cases cb : c.toNat < b.toNat
              · simp [bc, cb] at second
              · simp only [ab, ba, bc, cb, if_false] at first second
                simp [show ¬ a.toNat < c.toNat by omega, show ¬ c.toNat < a.toNat by omega,
                  ih bs cs first second]

/-- Two texts of which neither comes after the other are the same. -/
theorem notAfter_antisymm {as bs : List Char} (first : notAfter as bs = true)
    (second : notAfter bs as = true) : as = bs := by
  induction as generalizing bs with
  | nil =>
    cases bs with
    | nil => rfl
    | cons b bs => simp [notAfter] at second
  | cons a as ih =>
    cases bs with
    | nil => simp [notAfter] at first
    | cons b bs =>
      rw [notAfter] at first second
      by_cases less : a.toNat < b.toNat
      · simp [less, Nat.lt_asymm less] at second
      · by_cases more : b.toNat < a.toNat
        · simp [less, more] at first
        · simp only [less, more, if_false] at first second
          have same : a = b := Char.toNat_inj.mp (by omega)
          rw [same, ih first second]

end DocTags.Text
