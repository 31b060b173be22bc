import DocTags.Grammar.Shorthand
import DocTags.Proofs.Text.Greedy
import Mathlib.Data.List.TakeWhile

/-!
# What a shorthand text stands for

The text after the bracketed type can be cut into its parts in several ways. `Parts.Of` says which
ways the grammar allows, and the reader returns the parts of the cut that is lexicographically
greatest in the lengths of its parts. A text is read exactly if it starts with a bracketed word and
has a line break after that.
-/

namespace DocTags.Shorthand

open Text

@[ext]
structure Parts where
  gap : List Char
  name : List Char
  required : Bool
  indent : List Char
  description : List Char
  values : List Char

namespace Parts

/-- The parts make up a text, each within its character class. -/
structure Of (parts : Parts) (text : List Char) : Prop where
  text : text = parts.gap ++ (parts.name ++ ((if parts.required then requiredMark else []) ++
    (parts.indent ++ (parts.description ++ '\n' :: parts.values))))
  gap : ∀ c ∈ parts.gap, isBlank c = true
  name : ∀ c ∈ parts.name, isWord c = true
  indent : ∀ c ∈ parts.indent, isBlank c = true
  description : '\n' ∉ parts.description

def rank (parts : Parts) : Nat ×ₗ Nat ×ₗ Bool ×ₗ Nat ×ₗ Nat :=
  toLex (parts.gap.length, toLex (parts.name.length, toLex (parts.required,
    toLex (parts.indent.length, parts.description.length))))

/-- Of all ways to cut a text, the parts are the greatest. -/
structure Greatest (parts : Parts) (text : List Char) : Prop where
  of : parts.Of text
  greatest : ∀ other : Parts, other.Of text → other.rank ≤ parts.rank

def shorthand (parts : Parts) (typeName : List Char) : Shorthand where
  typeName := String.ofList typeName
  name := String.ofList parts.name
  required := parts.required
  description := String.ofList (trim parts.description)
  values := ValueList.read (String.ofList parts.values)

end Parts

/-! ### What follows each part -/

namespace Parts

def afterIndent (parts : Parts) : List Char := parts.description ++ '\n' :: parts.values

def afterMark (parts : Parts) : List Char := parts.indent ++ parts.afterIndent

def afterName (parts : Parts) : List Char :=
  (if parts.required then requiredMark else []) ++ parts.afterMark

def afterGap (parts : Parts) : List Char := parts.name ++ parts.afterName

end Parts

variable {typeName name text : List Char} {required : Bool}

/-! ### The first line -/

theorem readLine_afterIndent (typeName : List Char) (parts : Parts)
    (free : '\n' ∉ parts.description) :
    readLine typeName parts.name parts.required parts.afterIndent =
      some (parts.shorthand typeName) := by
  have inside : ∀ c ∈ parts.description, (c != '\n') = true := by
    intro c member
    exact bne_iff_ne.mpr (fun same => free (same ▸ member))
  have dropped : parts.afterIndent.dropWhile (· != '\n') = '\n' :: parts.values := by
    rw [Parts.afterIndent, List.dropWhile_append_of_pos inside]
    simp
  have taken : parts.afterIndent.takeWhile (· != '\n') = parts.description := by
    rw [Parts.afterIndent, List.takeWhile_append_of_pos inside]
    simp
  unfold readLine
  rw [dropped, taken, Parts.shorthand, ValueList.read, String.toList_ofList]

theorem readLine_of_not_mem (free : '\n' ∉ text) : readLine typeName name required text = none := by
  have dropped : text.dropWhile (· != '\n') = [] := by
    apply List.dropWhile_eq_nil_iff.mpr
    intro c member
    exact bne_iff_ne.mpr (fun same => free (same ▸ member))
  unfold readLine
  rw [dropped]

theorem line_unique {description values other rest : List Char} (free : '\n' ∉ description)
    (otherFree : '\n' ∉ other) (same : description ++ '\n' :: values = other ++ '\n' :: rest) :
    description = other ∧ values = rest := by
  induction description generalizing other with
  | nil =>
    cases other with
    | nil => exact ⟨rfl, (List.cons.inj same).2⟩
    | cons c other => exact absurd ((List.cons.inj same).1 ▸ List.mem_cons_self) otherFree
  | cons d description ih =>
    cases other with
    | nil => exact absurd ((List.cons.inj same).1 ▸ List.mem_cons_self) free
    | cons c other =>
      obtain ⟨rfl, tails⟩ := List.cons.inj same
      have ⟨sameLine, sameRest⟩ := ih (fun member => free (List.mem_cons_of_mem _ member))
        (fun member => otherFree (List.mem_cons_of_mem _ member)) tails
      exact ⟨by rw [sameLine], sameRest⟩

theorem readLine_picks (gap indent : List Char) :
    Picks (fun parts : Parts => ('\n' ∉ parts.description ∧ parts.gap = gap ∧ parts.name = name ∧
        parts.required = required) ∧ parts.indent = indent ∧ parts.afterIndent = text)
      (fun parts => parts.description.length) (fun parts => parts.shorthand typeName)
      (readLine typeName name required text) := by
  by_cases broken : '\n' ∈ text
  · obtain ⟨description, values, rfl, free⟩ := List.eq_append_cons_of_mem broken
    have read := readLine_afterIndent typeName
      ⟨gap, name, required, indent, description, values⟩ free
    rw [show readLine typeName name required (description ++ '\n' :: values) = _ from read]
    refine .greatest ⟨⟨free, rfl, rfl, rfl⟩, rfl, rfl⟩ ?_
    rintro other ⟨⟨otherFree, _⟩, _, otherText⟩
    rw [(line_unique otherFree free otherText).1]
  · rw [readLine_of_not_mem broken]
    refine .nothing ?_
    rintro parts ⟨_, _, rfl⟩
    exact broken (List.mem_append_right _ List.mem_cons_self)

/-! ### The parts before it, from the last to the first -/

theorem readIndent_picks (gap : List Char) :
    Picks (fun parts : Parts => ('\n' ∉ parts.description ∧ (∀ c ∈ parts.indent, isBlank c = true) ∧
        parts.gap = gap ∧ parts.name = name) ∧ parts.required = required ∧ parts.afterMark = text)
      (fun parts => toLex (parts.indent.length, parts.description.length))
      (fun parts => parts.shorthand typeName)
      (takeMost isBlank text fun _ text => readLine typeName name required text) := by
  refine (takeMost_picks Parts.indent Parts.afterIndent
    fun indent _ => readLine_picks gap indent).congr fun parts => ?_
  simp only [run_iff, Parts.afterMark]
  tauto

theorem readMark_picks (gap : List Char) :
    Picks (fun parts : Parts => ('\n' ∉ parts.description ∧ (∀ c ∈ parts.indent, isBlank c = true) ∧
        parts.gap = gap) ∧ parts.name = name ∧ parts.afterName = text)
      (fun parts => toLex (parts.required, toLex (parts.indent.length, parts.description.length)))
      (fun parts => parts.shorthand typeName)
      (takeIfPresent requiredMark text fun required text =>
        takeMost isBlank text fun _ text => readLine typeName name required text) := by
  refine (takeIfPresent_picks Parts.required Parts.afterMark
    fun _ _ => readIndent_picks gap).congr fun parts => ?_
  simp only [Marked, Parts.afterName, eq_comm (a := text)]
  tauto

theorem readName_picks (gap : List Char) :
    Picks (fun parts : Parts => ('\n' ∉ parts.description ∧ (∀ c ∈ parts.indent, isBlank c = true) ∧
        ∀ c ∈ parts.name, isWord c = true) ∧ parts.gap = gap ∧ parts.afterGap = text)
      (fun parts => toLex (parts.name.length, toLex (parts.required,
        toLex (parts.indent.length, parts.description.length))))
      (fun parts => parts.shorthand typeName)
      (takeMost isWord text fun name text => takeIfPresent requiredMark text fun required text =>
        takeMost isBlank text fun _ text => readLine typeName name required text) := by
  refine (takeMost_picks Parts.name Parts.afterName
    fun _ _ => readMark_picks gap).congr fun parts => ?_
  simp only [run_iff, Parts.afterGap]
  tauto

/-- Every part takes as much as it can, the earlier parts first. -/
theorem readAfterType_picks (typeName text : List Char) :
    Picks (fun parts : Parts => parts.Of text) Parts.rank (fun parts => parts.shorthand typeName)
      (readAfterType typeName text) := by
  refine (takeMost_picks Parts.gap Parts.afterGap
    fun gap _ => readName_picks gap).congr fun parts => ?_
  constructor
  · rintro ⟨⟨description, indent, name⟩, whole, gap⟩
    exact ⟨whole, gap, name, indent, description⟩
  · rintro ⟨whole, gap, name, indent, description⟩
    exact ⟨⟨description, indent, name⟩, whole, gap⟩

/-- The lengths of the parts say where a text is cut. -/
theorem Parts.eq_of_rank_eq {parts other : Parts} (first : parts.Of text) (second : other.Of text)
    (same : parts.rank = other.rank) : parts = other := by
  simp only [rank, toLex_inj, Prod.mk.injEq] at same
  obtain ⟨gapLength, nameLength, sameRequired, indentLength, descriptionLength⟩ := same
  obtain ⟨sameGap, afterGap⟩ := List.append_inj (first.text.symm.trans second.text) gapLength
  obtain ⟨sameName, afterName⟩ := List.append_inj afterGap nameLength
  rw [sameRequired] at afterName
  obtain ⟨sameIndent, afterIndent⟩ :=
    List.append_inj (List.append_cancel_left afterName) indentLength
  obtain ⟨sameDescription, line⟩ := List.append_inj afterIndent descriptionLength
  exact Parts.ext sameGap sameName sameRequired sameIndent sameDescription (List.cons.inj line).2

theorem Parts.Greatest.unique {parts other : Parts} (first : parts.Greatest text)
    (second : other.Greatest text) : parts = other :=
  Parts.eq_of_rank_eq first.of second.of
    (le_antisymm (second.greatest parts first.of) (first.greatest other second.of))

theorem Parts.exists_of (broken : '\n' ∈ text) : ∃ parts : Parts, parts.Of text := by
  obtain ⟨description, values, rfl, free⟩ := List.eq_append_cons_of_mem broken
  refine ⟨⟨[], [], false, [], description, values⟩, rfl, ?_, ?_, ?_, free⟩
  all_goals simp

theorem Parts.Of.broken {parts : Parts} (of : parts.Of text) : '\n' ∈ text := by
  rw [of.text]
  simp

/-! ### The bracketed type -/

/-- A text starts with a word in brackets. -/
structure Bracketed (text typeName rest : List Char) : Prop where
  text : text = '[' :: (typeName ++ ']' :: rest)
  word : ∀ c ∈ typeName, isWord c = true

variable {rest : List Char}

theorem readChars?_eq (bracketed : Bracketed text typeName rest) :
    readChars? text = readAfterType typeName rest := by
  have closes : isWord ']' = false := by decide +kernel
  have dropped : (typeName ++ ']' :: rest).dropWhile isWord = ']' :: rest := by
    rw [List.dropWhile_append_of_pos bracketed.word, List.dropWhile_cons_of_neg (by simp [closes])]
  have taken : (typeName ++ ']' :: rest).takeWhile isWord = typeName := by
    rw [List.takeWhile_append_of_pos bracketed.word, List.takeWhile_cons_of_neg (by simp [closes]),
      List.append_nil]
  rw [bracketed.text]
  simp only [readChars?, dropped, taken]

theorem bracketed_of_readChars? {shorthand : Shorthand} (read : readChars? text = some shorthand) :
    ∃ typeName rest, Bracketed text typeName rest := by
  unfold readChars? at read
  split at read
  · rename_i text
    split at read
    · rename_i rest dropped
      refine ⟨text.takeWhile isWord, rest, ?_, fun _ member => List.mem_takeWhile_imp member⟩
      rw [← dropped, List.takeWhile_append_dropWhile]
    · cases read
  · cases read

theorem exists_greatest (bracketed : Bracketed text typeName rest) (broken : '\n' ∈ rest) :
    ∃ parts : Parts, parts.Greatest rest ∧ readChars? text = some (parts.shorthand typeName) := by
  have picks := readAfterType_picks typeName rest
  rw [readChars?_eq bracketed]
  cases got : readAfterType typeName rest with
  | none =>
    rw [got] at picks
    cases picks with
    | nothing impossible =>
      obtain ⟨parts, of⟩ := Parts.exists_of broken
      exact absurd of (impossible parts)
  | some shorthand =>
    rw [got] at picks
    cases picks with
    | greatest of first => exact ⟨_, ⟨of, first⟩, rfl⟩

theorem broken_of_readChars? {shorthand : Shorthand} (read : readChars? text = some shorthand) :
    ∃ typeName rest, Bracketed text typeName rest ∧ '\n' ∈ rest := by
  obtain ⟨typeName, rest, bracketed⟩ := bracketed_of_readChars? read
  have picks := readAfterType_picks typeName rest
  rw [← readChars?_eq bracketed, read] at picks
  cases picks with
  | greatest of _ => exact ⟨typeName, rest, bracketed, of.broken⟩

/-- A text is read exactly if it starts with a word in brackets and has a line break after that. The
parameter has the bracketed type and the parts of the lexicographically greatest way to cut what
follows; any other text is refused as a malformed `@parameter_list` tag. -/
theorem read_exact (text : String) :
    ((∃ shorthand, read text = .ok shorthand) ↔
      ∃ typeName rest, Bracketed text.toList typeName rest ∧ '\n' ∈ rest) ∧
    (∀ typeName rest, Bracketed text.toList typeName rest → '\n' ∈ rest →
      ∃ parts : Parts, parts.Greatest rest ∧
        (∀ other : Parts, other.Greatest rest → other = parts) ∧
        read text = .ok (parts.shorthand typeName)) ∧
    ((¬ ∃ typeName rest, Bracketed text.toList typeName rest ∧ '\n' ∈ rest) →
      ∃ error : TagError, read text = .error (.tag error) ∧ error.kind = .malformedTag ∧
        error.tagName = some "parameter_list") := by
  refine ⟨⟨?_, ?_⟩, ?_, ?_⟩
  · rintro ⟨shorthand, succeeded⟩
    cases got : readChars? text.toList with
    | none =>
      rw [read, got] at succeeded
      cases succeeded
    | some _ => exact broken_of_readChars? got
  · rintro ⟨typeName, rest, bracketed, broken⟩
    obtain ⟨parts, _, got⟩ := exists_greatest bracketed broken
    exact ⟨_, by rw [read, got]⟩
  · intro typeName rest bracketed broken
    obtain ⟨parts, greatest, got⟩ := exists_greatest bracketed broken
    exact ⟨parts, greatest, fun other first => first.unique greatest, by rw [read, got]⟩
  · intro malformed
    cases got : readChars? text.toList with
    | none => exact ⟨_, by rw [read, got]; rfl, rfl, rfl⟩
    | some _ => exact absurd (broken_of_readChars? got) malformed

/-- The only line break is given back by the gap, and the name with it becomes a value. -/
theorem read_exact_name_given_back :
    Bracketed "[T]\nx y".toList ['T'] "\nx y".toList ∧ '\n' ∈ "\nx y".toList ∧
    ∃ parts : Parts, parts.Greatest "\nx y".toList ∧
      parts.shorthand ['T'] = ⟨"T", "", false, "", ["x y"]⟩ := by
  have word : isWord 'T' = true := by decide +kernel
  have bracketed : Bracketed "[T]\nx y".toList ['T'] "\nx y".toList :=
    ⟨by decide, List.forall_mem_singleton.mpr word⟩
  have broken : '\n' ∈ "\nx y".toList := by decide
  obtain ⟨parts, greatest, _, succeeded⟩ :=
    (read_exact "[T]\nx y").2.1 ['T'] "\nx y".toList bracketed broken
  have computed : read "[T]\nx y" = .ok ⟨"T", "", false, "", ["x y"]⟩ := by decide +kernel
  rw [computed] at succeeded
  exact ⟨bracketed, broken, parts, greatest, (Except.ok.inj succeeded).symm⟩

end DocTags.Shorthand
