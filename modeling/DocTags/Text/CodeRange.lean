/-!
Ranges of code points with a stride. Every character class of this library is a list of such
ranges, in ascending order, and `isIn` decides membership by looking through the list.
-/

namespace DocTags.Text

/-- The code points `first`, `first + stride`, `first + 2 * stride`, … that are at most `last`. -/
structure CodeRange where
  first : Nat
  last : Nat
  stride : Nat
deriving Repr, DecidableEq

def CodeRange.contains (range : CodeRange) (code : Nat) : Bool :=
  range.first ≤ code && code ≤ range.last && (code - range.first) % range.stride == 0

def isIn (ranges : List CodeRange) (c : Char) : Bool :=
  ranges.any (·.contains c.toNat)

/-- Whether all codes of a range are even, or all of them odd. -/
def CodeRange.hasOneParity (range : CodeRange) : Bool :=
  range.first == range.last || range.stride % 2 == 0

/-- Whether one range ends before the other begins, or the codes of one are even and those of the
other odd. -/
def CodeRange.isApart (range other : CodeRange) : Bool :=
  range.last.blt other.first || other.last.blt range.first ||
    (range.hasOneParity && other.hasOneParity && range.first % 2 != other.first % 2)

def areApart (ranges others : List CodeRange) : Bool :=
  ranges.all fun range => others.all range.isApart

theorem CodeRange.contains_iff {range : CodeRange} {code : Nat} :
    range.contains code = true ↔
      range.first ≤ code ∧ code ≤ range.last ∧ (code - range.first) % range.stride = 0 := by
  simp [contains, and_assoc]

theorem CodeRange.mod_two_eq {range : CodeRange} {code : Nat} (parity : range.hasOneParity = true)
    (inside : range.contains code = true) : code % 2 = range.first % 2 := by
  obtain ⟨atLeast, atMost, steps⟩ := contains_iff.mp inside
  simp only [hasOneParity, Bool.or_eq_true, beq_iff_eq] at parity
  rcases parity with single | even
  · omega
  · have whole : 2 ∣ code - range.first :=
      Nat.dvd_trans (Nat.dvd_of_mod_eq_zero even) (Nat.dvd_of_mod_eq_zero steps)
    omega

theorem CodeRange.contains_eq_false_of_isApart {range other : CodeRange} {code : Nat}
    (apart : range.isApart other = true) (inside : range.contains code = true) :
    other.contains code = false := by
  rw [Bool.eq_false_iff]
  intro inOther
  have bounds := contains_iff.mp inside
  have otherBounds := contains_iff.mp inOther
  simp only [isApart, Bool.or_eq_true, Bool.and_eq_true, Nat.blt_eq, bne_iff_ne] at apart
  rcases apart with (below | above) | ⟨⟨parity, otherParity⟩, differ⟩
  · omega
  · omega
  · exact differ ((mod_two_eq parity inside).symm.trans (mod_two_eq otherParity inOther))

theorem contains_eq_false_of_areApart {ranges others : List CodeRange}
    (apart : areApart ranges others = true) {range : CodeRange} {code : Nat}
    (member : range ∈ ranges) (inside : range.contains code = true) :
    ∀ other ∈ others, other.contains code = false := by
  intro other inOthers
  have isApart := List.all_eq_true.mp (List.all_eq_true.mp apart range member) other inOthers
  exact CodeRange.contains_eq_false_of_isApart isApart inside

/-- Classes whose ranges lie apart have no character in common. -/
theorem not_isIn_of_areApart {ranges others : List CodeRange} {c : Char}
    (apart : areApart ranges others = true) (member : isIn ranges c = true) :
    isIn others c = false := by
  obtain ⟨range, inRanges, inside⟩ := List.any_eq_true.mp member
  rw [isIn, List.any_eq_false]
  intro other inOthers
  rw [contains_eq_false_of_areApart apart inRanges inside other inOthers]
  exact Bool.false_ne_true

end DocTags.Text
