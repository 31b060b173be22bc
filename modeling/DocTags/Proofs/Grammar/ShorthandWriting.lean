import DocTags.Proofs.Grammar.Shorthand
import DocTags.Proofs.Grammar.ValueList

/-!
# Shorthand texts are read back

A parameter that is written in shorthand, its values on lines of their own, is read back as it was.
Each part of such a text is followed by a character that cannot belong to it, so no part takes too
much and none has to give anything back.
-/

namespace DocTags

theorem Text.not_isBlank_of_isWord {c : Char} (word : isWord c = true) : isBlank c = false := by
  rcases Bool.or_eq_true_iff.mp word with underscore | alphanumeric
  · rw [beq_iff_eq.mp underscore]
    decide
  · exact not_isIn_of_areApart (by decide +kernel) alphanumeric

namespace Shorthand

open Text

/-! ### Texts in which every part ends by itself -/

/-- What follows each part cannot belong to it. -/
structure Parts.Settled (parts : Parts) : Prop where
  gap : ∀ c ∈ parts.gap, isBlank c = true
  afterGap : ∀ c ∈ parts.afterGap.head?, isBlank c = false
  name : ∀ c ∈ parts.name, isWord c = true
  afterName : ∀ c ∈ parts.afterName.head?, isWord c = false
  unmarked : parts.required = false → ¬ requiredMark <+: parts.afterMark
  indent : ∀ c ∈ parts.indent, isBlank c = true
  afterIndent : ∀ c ∈ parts.afterIndent.head?, isBlank c = false
  description : '\n' ∉ parts.description

theorem Parts.Settled.readAfterType {parts : Parts} (settled : parts.Settled)
    (typeName : List Char) :
    readAfterType typeName (parts.gap ++ parts.afterGap) = some (parts.shorthand typeName) := by
  have line := readLine_afterIndent typeName parts settled.description
  have indented : takeMost isBlank parts.afterMark (fun _ text =>
      readLine typeName parts.name parts.required text) = some (parts.shorthand typeName) :=
    takeMost_of_success settled.indent settled.afterIndent line
  have marked : takeIfPresent requiredMark parts.afterName (fun required text =>
      takeMost isBlank text fun _ text => readLine typeName parts.name required text) =
      some (parts.shorthand typeName) := by
    cases required : parts.required with
    | true =>
      rw [Parts.afterName, required, if_pos rfl]
      rw [required] at indented
      exact takeIfPresent_of_success indented
    | false =>
      have unmarked := settled.unmarked required
      rw [Parts.afterName, required]
      rw [required] at indented
      exact (takeIfPresent_of_missing unmarked _).trans indented
  have named : takeMost isWord parts.afterGap (fun name text =>
      takeIfPresent requiredMark text fun required text =>
        takeMost isBlank text fun _ text => readLine typeName name required text) =
      some (parts.shorthand typeName) :=
    takeMost_of_success settled.name settled.afterName marked
  exact takeMost_of_success settled.gap settled.afterGap named

/-! ### Texts that were written -/

/-- A parameter that can be written in shorthand. -/
structure Writable (shorthand : Shorthand) : Prop where
  typeName : ∀ c ∈ shorthand.typeName.toList, isWord c = true
  named : shorthand.name ≠ ""
  name : ∀ c ∈ shorthand.name.toList, isWord c = true
  described : shorthand.description ≠ ""
  description : Trimmed shorthand.description
  oneLine : '\n' ∉ shorthand.description.toList
  values : ∀ value ∈ shorthand.values, ValueList.Writable value

def written (shorthand : Shorthand) : String :=
  "[" ++ shorthand.typeName ++ "] " ++ shorthand.name ++
    (if shorthand.required then "(required)" else "") ++ " " ++ shorthand.description ++ "\n" ++
    ValueList.written shorthand.values

/-- The parts of the text that is written. -/
def parts (shorthand : Shorthand) : Parts where
  gap := [' ']
  name := shorthand.name.toList
  required := shorthand.required
  indent := [' ']
  description := shorthand.description.toList
  values := (ValueList.written shorthand.values).toList

variable {shorthand : Shorthand}

theorem toList_written (shorthand : Shorthand) :
    shorthand.written.toList =
      '[' :: (shorthand.typeName.toList ++ ']' ::
        (shorthand.parts.gap ++ shorthand.parts.afterGap)) := by
  have mark : (if shorthand.required then "(required)" else "").toList =
      if shorthand.required then requiredMark else [] := by
    cases shorthand.required <;> rfl
  simp only [written, String.toList_append, mark, List.append_assoc]
  rfl

theorem Writable.settled (writable : shorthand.Writable) : shorthand.parts.Settled := by
  obtain ⟨first, others, name⟩ := List.exists_cons_of_ne_nil
    (show shorthand.name.toList ≠ [] by simpa using writable.named)
  obtain ⟨start, rest, description⟩ := List.exists_cons_of_ne_nil
    (show shorthand.description.toList ≠ [] by simpa using writable.described)
  have blank : ∀ c ∈ [' '], isBlank c = true := List.forall_mem_singleton.mpr (by decide)
  refine ⟨blank, ?_, writable.name, ?_, ?_, blank, ?_, writable.oneLine⟩
  · have word : isWord first = true := writable.name first (name ▸ List.mem_cons_self)
    simp [parts, Parts.afterGap, name, not_isBlank_of_isWord word]
  · have space : isWord ' ' = false := by decide +kernel
    have parenthesis : isWord '(' = false := by decide +kernel
    intro c first
    cases required : shorthand.required with
    | true =>
      simp only [parts, Parts.afterName, required] at first
      rw [← Option.some.inj (show some '(' = some c from first)]
      exact parenthesis
    | false =>
      simp only [parts, Parts.afterName, required] at first
      rw [← Option.some.inj (show some ' ' = some c from first)]
      exact space
  · rintro - ⟨rest, begins⟩
    exact absurd (List.cons.inj begins).1 (by decide)
  · have nonblank := head_of_trim writable.description start (by rw [description]; rfl)
    simp [parts, Parts.afterIndent, description, nonblank]

theorem Writable.shorthand_parts (writable : shorthand.Writable) :
    shorthand.parts.shorthand shorthand.typeName.toList = shorthand := by
  have description : trim shorthand.description.toList = shorthand.description.toList :=
    writable.description
  simp only [Parts.shorthand, parts, String.ofList_toList, description,
    ValueList.read_written writable.values]

/-- Whatever its description and its values look like inside, a parameter that was written in
shorthand is read as it was. -/
theorem read_inverts_written (shorthand : Shorthand) (writable : shorthand.Writable) :
    read shorthand.written = .ok shorthand := by
  have bracketed : Bracketed shorthand.written.toList shorthand.typeName.toList
      (shorthand.parts.gap ++ shorthand.parts.afterGap) :=
    ⟨toList_written shorthand, writable.typeName⟩
  have chosen := writable.settled.readAfterType shorthand.typeName.toList
  rw [writable.shorthand_parts] at chosen
  rw [read, readChars?_eq bracketed, chosen]

/-- A description that begins like the mark, and values with pieces of the marker. -/
def sizes : Shorthand where
  typeName := "T"
  name := "größe_2"
  required := false
  description := "(required) [List] [x]"
  values := ["S\n[Lis", "t] M", "[List", "[[List"]

theorem read_inverts_written_sizes :
    sizes.Writable ∧
    sizes.written = "[T] größe_2 (required) [List] [x]\n[List] S\n[Lis\n[List] t] M\n" ++
      "[List] [List\n[List] [[List" ∧
    read sizes.written = .ok sizes := by
  have writable : sizes.Writable := by
    refine ⟨List.all_eq_true.mp ?_, by decide, List.all_eq_true.mp ?_, by decide, ?_, by decide, ?_⟩
    · decide +kernel
    · decide +kernel
    · decide +kernel
    · simp only [sizes, List.forall_mem_cons]
      refine ⟨?_, ?_, ?_, ?_, nofun⟩
      all_goals exact ⟨by decide, by decide +kernel, by decide +kernel⟩
  exact ⟨writable, by decide +kernel, read_inverts_written sizes writable⟩

end Shorthand

end DocTags
