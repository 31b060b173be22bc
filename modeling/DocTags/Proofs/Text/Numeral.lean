import DocTags.Proofs.Text.Pieces
import DocTags.Text.Numeral
import Mathlib.Data.Nat.Digits.Lemmas

/-!
# Which texts are numerals

An integer is written as blanks, perhaps a sign, groups of digits with one underscore between two
groups, and blanks. `readInt?` reads the texts that are written this way and have few enough digits,
and no others. Two numerals stand for one integer if they differ in no more than blanks, groups,
scripts, leading zeros and a plus sign (`Numeral.spells_iff`).
-/

namespace DocTags.Text

def Grouped (groups : List (List Char)) : Prop :=
  groups ≠ [] ∧ ∀ group ∈ groups, group ≠ [] ∧ ∀ c ∈ group, isDecimalDigit c = true

structure Numeral where
  before : List Char
  sign : Option Char
  groups : List (List Char)
  after : List Char

namespace Numeral

def digits (numeral : Numeral) : List Char := numeral.groups.flatten

/-- The numeral is how a text is written. -/
structure Of (numeral : Numeral) (text : List Char) : Prop where
  text : text = numeral.before ++ (numeral.sign.toList ++ ['_'].intercalate numeral.groups ++
    numeral.after)
  before : ∀ c ∈ numeral.before, isNumeralBlank c = true
  sign : ∀ c ∈ numeral.sign, c = '+' ∨ c = '-'
  groups : Grouped numeral.groups
  few : numeral.digits.length ≤ maxDigits
  after : ∀ c ∈ numeral.after, isNumeralBlank c = true

def magnitude (numeral : Numeral) : Nat := ofDigitValues (numeral.digits.filterMap digitValue?)

def value (numeral : Numeral) : Int :=
  if numeral.sign = some '-' then -numeral.magnitude else numeral.magnitude

end Numeral

variable {c : Char} {text rest group : List Char} {groups : List (List Char)} {ds : List Nat}

/-! ### Characters -/

theorem exists_zeroDigit (digit : isDecimalDigit c = true) :
    ∃ start ∈ zeroDigits, start ≤ c.toNat ∧ c.toNat < start + 10 := by
  rw [isDecimalDigit, digitValue?, Option.isSome_map, Option.isSome_iff_exists] at digit
  obtain ⟨start, found⟩ := digit
  have inside := List.find?_some found
  rw [Bool.and_eq_true, decide_eq_true_eq, decide_eq_true_eq] at inside
  exact ⟨start, List.mem_of_find?_eq_some found, inside⟩

theorem not_isNumeralBlank_of_digit (digit : isDecimalDigit c = true) :
    isNumeralBlank c = false := by
  obtain ⟨start, isStart, low, high⟩ := exists_zeroDigit digit
  have apart : ∀ start ∈ zeroDigits, ∀ range ∈ blankRanges,
      range.last < start ∨ start + 10 ≤ range.first := by decide
  have notBlank : isBlank c = false := by
    rw [isBlank, isIn, List.any_eq_false]
    intro range member contained
    simp only [CodeRange.contains, Bool.and_eq_true, decide_eq_true_eq] at contained
    have := apart start isStart range member
    omega
  rw [isNumeralBlank, notBlank, Bool.false_and]

theorem digit_ne_of_not (digit : isDecimalDigit c = true) {other : Char}
    (notDigit : isDecimalDigit other = false) : c ≠ other := by
  rintro rfl
  rw [digit] at notDigit
  cases notDigit

/-! ### Digits in groups -/

theorem exists_grouped (values : digitValues? text = some ds) :
    ∃ groups, Grouped groups ∧ text = ['_'].intercalate groups ∧
      ds = groups.flatten.filterMap digitValue? := by
  fun_induction digitValues? text generalizing ds with
  | case1 => cases values
  | case2 c =>
    obtain ⟨d, value, rfl⟩ := Option.map_eq_some_iff.mp values
    refine ⟨[[c]], ⟨by simp, ?_⟩, by simp, by simp [value]⟩
    simp [isDecimalDigit, value]
  | case3 c rest d ds' read value ih =>
    obtain rfl := Option.some.inj values
    obtain ⟨groups, ⟨nonempty, digits⟩, rfl, rfl⟩ := ih read
    refine ⟨[c] :: groups, ⟨by simp, ?_⟩, ?_, by simp [value]⟩
    · simpa [isDecimalDigit, value] using digits
    · rw [List.intercalate_cons_of_ne_nil nonempty]
      rfl
  | case4 => cases values
  | case5 c rest _ _ d ds' read value ih =>
    obtain rfl := Option.some.inj values
    obtain ⟨groups, ⟨nonempty, digits⟩, rfl, rfl⟩ := ih read
    -- The digit joins the first group of what follows.
    obtain ⟨group, others, rfl⟩ := List.exists_cons_of_ne_nil nonempty
    refine ⟨(c :: group) :: others, ⟨by simp, ?_⟩, ?_, by simp [value]⟩
    · have isDigit : isDecimalDigit c = true := by simp [isDecimalDigit, value]
      intro other member
      rcases List.mem_cons.mp member with rfl | later
      · refine ⟨List.cons_ne_nil _ _, List.forall_mem_cons.mpr ⟨isDigit, ?_⟩⟩
        exact (digits group List.mem_cons_self).2
      · exact digits other (List.mem_cons_of_mem _ later)
    · cases others with
      | nil => simp
      | cons next others => simp [List.intercalate_cons_cons]
  | case6 => cases values

theorem Grouped.head (grouped : Grouped groups) :
    ∃ c rest, ['_'].intercalate groups = c :: rest ∧ isDecimalDigit c = true := by
  obtain ⟨nonempty, digits⟩ := grouped
  obtain ⟨group, others, rfl⟩ := List.exists_cons_of_ne_nil nonempty
  obtain ⟨filled, isDigit⟩ := digits group List.mem_cons_self
  obtain ⟨c, group, rfl⟩ := List.exists_cons_of_ne_nil filled
  have first := isDigit c List.mem_cons_self
  cases others with
  | nil => exact ⟨c, group, List.intercalate_singleton, first⟩
  | cons next others => exact ⟨c, _, List.intercalate_cons_cons, first⟩

theorem digitValues?_cons {d : Nat} (value : digitValue? c = some d)
    (values : digitValues? rest = some ds) : digitValues? (c :: rest) = some (d :: ds) := by
  obtain ⟨groups, grouped, rfl, _⟩ := exists_grouped values
  obtain ⟨next, rest, starts, digit⟩ := grouped.head
  -- What follows starts with a digit, so it is not the gap between two groups.
  have notGap : next ≠ '_' := digit_ne_of_not digit (by decide)
  rw [starts] at values ⊢
  rw [digitValues?.eq_4 c (next :: rest) (by simp) (by rintro _ ⟨⟩; exact notGap rfl)]
  simp only [value, values]

theorem digitValues?_gap {d : Nat} (value : digitValue? c = some d)
    (values : digitValues? rest = some ds) :
    digitValues? (c :: '_' :: rest) = some (d :: ds) := by
  rw [digitValues?]
  simp only [value, values]

theorem digitValues?_group (nonempty : group ≠ []) (digits : ∀ c ∈ group, isDecimalDigit c = true) :
    digitValues? group = some (group.filterMap digitValue?) ∧
    ∀ rest ds, digitValues? rest = some ds →
      digitValues? (group ++ '_' :: rest) = some (group.filterMap digitValue? ++ ds) := by
  induction group with
  | nil => exact absurd rfl nonempty
  | cons c group ih =>
    obtain ⟨d, value⟩ := Option.isSome_iff_exists.mp (digits c List.mem_cons_self)
    rw [List.filterMap_cons_some value]
    cases group with
    | nil =>
      refine ⟨?_, fun rest ds values => digitValues?_gap value values⟩
      simp [digitValues?, value]
    | cons next group =>
      obtain ⟨alone, followed⟩ := ih (List.cons_ne_nil _ _)
        fun c member => digits c (List.mem_cons_of_mem _ member)
      exact ⟨digitValues?_cons value alone,
        fun rest ds values => digitValues?_cons value (followed rest ds values)⟩

theorem Grouped.digitValues? (grouped : Grouped groups) :
    digitValues? (['_'].intercalate groups) = some (groups.flatten.filterMap digitValue?) := by
  obtain ⟨nonempty, digits⟩ := grouped
  induction groups with
  | nil => exact absurd rfl nonempty
  | cons group groups ih =>
    obtain ⟨filled, isDigit⟩ := digits group List.mem_cons_self
    obtain ⟨alone, followed⟩ := digitValues?_group filled isDigit
    cases groups with
    | nil => simpa using alone
    | cons next groups =>
      have read := ih (List.cons_ne_nil _ _)
        fun group member => digits group (List.mem_cons_of_mem _ member)
      rw [List.intercalate_cons_cons, List.flatten_cons, List.filterMap_append, List.append_assoc]
      exact followed _ _ read

/-! ### Signs and blanks -/

theorem readNat?_eq_some_iff {n : Nat} :
    readNat? text = some n ↔
      ∃ groups, Grouped groups ∧ text = ['_'].intercalate groups ∧
        groups.flatten.length ≤ maxDigits ∧
        n = ofDigitValues (groups.flatten.filterMap digitValue?) := by
  have lengths : ∀ {groups}, Grouped groups →
      (groups.flatten.filterMap digitValue?).length = groups.flatten.length := by
    intro groups grouped
    rw [List.filterMap_length_eq_length]
    intro c member
    obtain ⟨group, isGroup, inGroup⟩ := List.mem_flatten.mp member
    exact (grouped.2 group isGroup).2 c inGroup
  constructor
  · intro read
    unfold readNat? at read
    split at read
    · rename_i ds values
      obtain ⟨groups, grouped, rfl, rfl⟩ := exists_grouped values
      rw [lengths grouped] at read
      split at read
      · rename_i few
        exact ⟨groups, grouped, rfl, few, (Option.some.inj read).symm⟩
      · cases read
    · cases read
  · rintro ⟨groups, grouped, rfl, few, rfl⟩
    rw [readNat?, grouped.digitValues?]
    simp only [lengths grouped, few, if_true]

/-- A sign is taken off before the digits. -/
theorem readSigned?_eq_some_iff {n : Int} :
    readSigned? text = some n ↔
      ∃ sign magnitude, (∀ c ∈ sign, c = '+' ∨ c = '-') ∧
        (∃ rest, text = Option.toList sign ++ rest ∧ readNat? rest = some magnitude) ∧
        n = if sign = some '-' then -(magnitude : Int) else magnitude := by
  have opened : ∀ {rest : List Char} {change : Int → Int},
      Option.map change (do return ((← readNat? rest) : Int)) = some n →
      ∃ magnitude : Nat, readNat? rest = some magnitude ∧ n = change magnitude := by
    intro rest change read
    obtain ⟨_, cast, rfl⟩ := Option.map_eq_some_iff.mp read
    obtain ⟨magnitude, readRest, same⟩ := Option.bind_eq_some_iff.mp cast
    exact ⟨magnitude, readRest, by rw [← Option.some.inj same]⟩
  constructor
  · intro read
    unfold readSigned? at read
    split at read
    · obtain ⟨magnitude, readRest, rfl⟩ := opened read
      exact ⟨some '-', magnitude, by simp, ⟨_, rfl, readRest⟩, by simp⟩
    · obtain ⟨magnitude, readRest, rfl⟩ := opened read
      exact ⟨some '+', magnitude, by simp, ⟨_, rfl, readRest⟩, by simp⟩
    · obtain ⟨magnitude, readRest, rfl⟩ := opened read
      exact ⟨none, magnitude, by simp, ⟨_, rfl, readRest⟩, by simp⟩
  · rintro ⟨sign, magnitude, isSign, ⟨rest, rfl, read⟩, rfl⟩
    cases sign with
    | some c =>
      rcases isSign c rfl with rfl | rfl
      · simp [readSigned?, read]
      · simp [readSigned?, read]
    | none =>
      -- Digits do not start with a sign, so the text is read as it is.
      obtain ⟨groups, grouped, rfl, _⟩ := readNat?_eq_some_iff.mp read
      obtain ⟨c, rest, starts, digit⟩ := grouped.head
      have notMinus : c ≠ '-' := digit_ne_of_not digit (by decide)
      have notPlus : c ≠ '+' := digit_ne_of_not digit (by decide)
      rw [starts] at read ⊢
      rw [Option.toList_none, List.nil_append, readSigned?]
      · simp [read]
      · rintro _ ⟨⟩
        exact notMinus rfl
      · rintro _ ⟨⟩
        exact notPlus rfl

theorem mem_intercalate_of_digits (digits : ∀ group ∈ groups, ∀ c ∈ group, isDecimalDigit c = true)
    (member : c ∈ ['_'].intercalate groups) : c = '_' ∨ isDecimalDigit c = true := by
  rcases mem_of_mem_intercalate member with gap | ⟨group, listed, inGroup⟩
  · exact .inl (List.mem_singleton.mp gap)
  · exact .inr (digits group listed c inGroup)

theorem Numeral.Of.not_blank {numeral : Numeral} (of : numeral.Of text)
    (member : c ∈ numeral.sign.toList ++ ['_'].intercalate numeral.groups) :
    isNumeralBlank c = false := by
  rcases List.mem_append.mp member with isSign | inGroups
  · rcases of.sign c (Option.mem_toList.mp isSign) with rfl | rfl
    · decide
    · decide
  · have digits := fun group member => (of.groups.2 group member).2
    rcases mem_intercalate_of_digits digits inGroups with rfl | digit
    · decide
    · exact not_isNumeralBlank_of_digit digit

/-- The integers that are read are the values of numerals, and every numeral is read. -/
theorem readInt?_eq_some_iff {n : Int} :
    readInt? text = some n ↔ ∃ numeral : Numeral, numeral.Of text ∧ numeral.value = n := by
  constructor
  · intro read
    obtain ⟨before, after, outerBefore, outerAfter, whole⟩ := exists_stripped isNumeralBlank text
    obtain ⟨sign, magnitude, isSign, ⟨rest, core, readRest⟩, rfl⟩ :=
      readSigned?_eq_some_iff.mp read
    obtain ⟨groups, grouped, rfl, few, rfl⟩ := readNat?_eq_some_iff.mp readRest
    rw [core] at whole
    exact ⟨⟨before, sign, groups, after⟩,
      ⟨whole, outerBefore, isSign, grouped, few, outerAfter⟩, rfl⟩
  · rintro ⟨numeral, of, rfl⟩
    have readRest : readNat? (['_'].intercalate numeral.groups) = some numeral.magnitude :=
      readNat?_eq_some_iff.mpr ⟨numeral.groups, of.groups, rfl, of.few, rfl⟩
    have filled : numeral.sign.toList ++ ['_'].intercalate numeral.groups ≠ [] := by
      obtain ⟨c, rest, starts, _⟩ := of.groups.head
      simp [starts]
    rw [readInt?, of.text, stripped_eq of.before of.after filled
      (fun _ first => of.not_blank (List.mem_of_mem_head? first))
      (fun _ last => of.not_blank (List.mem_of_mem_getLast? last))]
    exact readSigned?_eq_some_iff.mpr
      ⟨numeral.sign, numeral.magnitude, of.sign, ⟨_, rfl, readRest⟩, rfl⟩

/-! ### Spellings of one integer -/

/-- The numeral stands for an integer: leading zeros apart it has the digits of the integer, in
whatever groups and scripts. Zero may be written with any sign. -/
structure Numeral.Spells (numeral : Numeral) (n : Int) : Prop where
  digits : (numeral.digits.filterMap digitValue?).dropWhile (· == 0) =
    (Nat.digits 10 n.natAbs).reverse
  sign : n ≠ 0 → (numeral.sign = some '-' ↔ n < 0)

theorem digitValue?_lt {d : Nat} (value : digitValue? c = some d) : d < 10 := by
  obtain ⟨start, found, rfl⟩ := Option.map_eq_some_iff.mp value
  have inside := List.find?_some found
  rw [Bool.and_eq_true, decide_eq_true_eq, decide_eq_true_eq] at inside
  omega

theorem ofDigitValues_eq_ofDigits (ds : List Nat) :
    ofDigitValues ds = Nat.ofDigits 10 ds.reverse := by
  rw [Nat.ofDigits_eq_foldr, List.foldr_reverse, ofDigitValues]
  congr 1
  funext n d
  exact Nat.add_comm _ _

theorem ofDigitValues_dropWhile (ds : List Nat) :
    ofDigitValues (ds.dropWhile (· == 0)) = ofDigitValues ds := by
  induction ds with
  | nil => rfl
  | cons d ds ih =>
    by_cases zero : d = 0
    · subst zero
      exact ih
    · rw [List.dropWhile_cons_of_neg (by simpa using zero)]

theorem ofDigitValues_eq_iff (small : ∀ d ∈ ds, d < 10) {n : Nat} :
    ofDigitValues ds = n ↔ ds.dropWhile (· == 0) = (Nat.digits 10 n).reverse := by
  rw [← ofDigitValues_dropWhile, ofDigitValues_eq_ofDigits, ← List.reverse_eq_iff]
  constructor
  · rintro rfl
    refine (Nat.digits_ofDigits 10 (by decide) _ ?_ ?_).symm
    · intro d member
      exact small d ((List.dropWhile_sublist _).subset (List.mem_reverse.mp member))
    · intro filled
      rw [List.getLast_reverse]
      simpa using List.head_dropWhile_not (· == 0) (mt List.reverse_eq_nil_iff.mpr filled)
  · intro same
    rw [same, Nat.ofDigits_digits]

theorem Numeral.spells_iff (numeral : Numeral) {n : Int} :
    numeral.Spells n ↔ numeral.value = n := by
  have small : ∀ d ∈ numeral.digits.filterMap digitValue?, d < 10 := by
    intro d member
    obtain ⟨c, _, value⟩ := List.mem_filterMap.mp member
    exact digitValue?_lt value
  have magnitude : numeral.magnitude = n.natAbs ↔ (numeral.digits.filterMap digitValue?).dropWhile
      (· == 0) = (Nat.digits 10 n.natAbs).reverse := ofDigitValues_eq_iff small
  have spelled : numeral.Spells n ↔
      numeral.magnitude = n.natAbs ∧ (n ≠ 0 → (numeral.sign = some '-' ↔ n < 0)) := by
    rw [magnitude]
    exact ⟨fun spells => ⟨spells.digits, spells.sign⟩, fun both => ⟨both.1, both.2⟩⟩
  rw [spelled, Numeral.value]
  by_cases minus : numeral.sign = some '-'
  · simp only [minus, true_iff, if_true]
    omega
  · simp only [minus, false_iff, if_false]
    omega

end DocTags.Text
