import DocTags.Proofs.Grammar.Shorthand
import DocTags.Proofs.Grammar.ValueList

/-!
# Which entries of a shorthand text become values

An entry goes from its marker to the next one or to the end of the text. Those after the first line
are meant to be the values. But blanks run over the ends of lines, so that the description may be
looked for on a later line, and the entries up to its end are passed over. What stands between the
description and the next entry is taken for a value. `read_values_iff` says for which texts neither
makes a difference.
-/

namespace DocTags

def Text.Blank (text : List Char) : Prop := ∀ c ∈ text, isBlank c = true

namespace ValueList

/-! ### Entries -/

/-- What stands before the first entry. -/
def lead (text : List Char) : List Char := (cutAtMarkers text).headD []

def entries (text : List Char) : List (List Char) := (cutAtMarkers text).tail

/-- The values that texts give: a blank text gives none. -/
def filled (texts : List (List Char)) : List String := (Text.nonblank texts).map String.ofList

variable {text before after first rest last : List Char} {contents others : List (List Char)}

theorem entries_of_text (text : List Char) : Entries text (lead text) (entries text) := by
  obtain ⟨first, contents, found⟩ := exists_entries text
  rw [lead, entries, found.cutAtMarkers]
  exact found

theorem Entries.entries_eq (found : Entries text first contents) : entries text = contents := by
  rw [entries, found.cutAtMarkers]
  rfl

/-! ### Entries of two texts, the first of which ends with a line -/

/-- The text is empty or ends with a line break. -/
def Ended (text : List Char) : Prop := ∀ c ∈ text.getLast?, c = '\n'

theorem Ended.free_append (ended : Ended before) (free : ¬ marker <:+: before)
    (freeAfter : ¬ marker <:+: after) : ¬ marker <:+: before ++ after := by
  intro inside
  rcases List.infix_append_iff_ne_nil.mp inside with own | later | across
  · exact free own
  · exact freeAfter later
  · -- The marker would have a line break in it.
    obtain ⟨start, finish, some, _, whole, ⟨front, rfl⟩, _⟩ := across
    obtain ⟨init, c, rfl⟩ := (List.eq_nil_or_concat start).resolve_left some
    have lineBreak : c = '\n' := ended c (by simp)
    have member : c ∈ marker := by rw [whole]; simp
    rw [lineBreak] at member
    exact absurd member (by decide)

theorem Ended.of_append (ended : Ended (before ++ last)) : Ended last := by
  intro c isLast
  apply ended c
  rw [List.getLast?_append, Option.mem_def.mp isLast]
  rfl

/-- Without an entry in the first text all of it joins what stands before those of the second;
otherwise what follows its last marker joins its last entry (`append_last`). -/
theorem Entries.append_lead (ended : Ended before) (front : Entries before first [])
    (back : Entries after rest others) : Entries (before ++ after) (first ++ rest) others := by
  have whole : before = first := by simpa using front.text
  refine ⟨by rw [whole, back.text, List.append_assoc], ?_, back.contents⟩
  exact (whole ▸ ended).free_append front.lead back.lead

theorem Entries.append_last (ended : Ended before)
    (front : Entries before first (contents ++ [last])) (back : Entries after rest others) :
    Entries (before ++ after) first (contents ++ (last ++ rest) :: others) := by
  have whole : before = (first ++ (contents.flatMap (marker ++ ·) ++ marker)) ++ last := by
    simpa using front.text
  have lastEnded : Ended last := (whole ▸ ended).of_append
  refine ⟨by rw [whole, back.text]; simp, front.lead, ?_⟩
  intro content member
  rcases List.mem_append.mp member with early | late
  · exact front.contents content (List.mem_append_left _ early)
  · rcases List.mem_cons.mp late with rfl | later
    · exact lastEnded.free_append (front.contents last (by simp)) back.lead
    · exact back.contents content later

/-! ### Values -/

theorem filled_append (texts others : List (List Char)) :
    filled (texts ++ others) = filled texts ++ filled others := by
  simp [filled, Text.nonblank]

theorem filled_cons (text : List Char) (others : List (List Char)) :
    filled (text :: others) =
      (if Text.trim text = [] then [] else [String.ofList (Text.trim text)]) ++ filled others := by
  by_cases blank : Text.trim text = [] <;>
    simp [filled, Text.nonblank, blank]

theorem filled_of_blank {texts : List (List Char)} (blank : ∀ text ∈ texts, Text.Blank text) :
    filled texts = [] := by
  have trimmed : ∀ text ∈ texts, Text.trim text = [] :=
    fun text member => Text.trim_eq_nil_iff.mpr (blank text member)
  simpa [filled, Text.nonblank] using trimmed

/-- All characters but the blanks are found in the values. -/
theorem filter_filled (texts : List (List Char)) :
    ((filled texts).flatMap String.toList).filter (!Text.isBlank ·) =
      texts.flatten.filter (!Text.isBlank ·) := by
  induction texts with
  | nil => rfl
  | cons text others ih =>
    have own : (if Text.trim text = [] then [] else [String.ofList (Text.trim text)]).flatMap
        String.toList = Text.trim text := by
      split <;> simp_all
    rw [filled_cons, List.flatMap_append, List.filter_append, ih, own, Text.filter_trim,
      List.flatten_cons, List.filter_append]

theorem blank_iff : Text.Blank text ↔ text.filter (!Text.isBlank ·) = [] := by
  simp [Text.Blank, List.filter_eq_nil_iff]

/-- What stands before the entries of a text adds nothing to their values if it is blank. -/
theorem filled_lead_iff (first : List Char) (contents : List (List Char)) :
    filled (first :: contents) = filled contents ↔ Text.Blank first := by
  constructor
  · intro same
    have chars := filter_filled (first :: contents)
    rw [same, filter_filled, List.flatten_cons, List.filter_append,
      List.self_eq_append_left] at chars
    exact blank_iff.mpr chars
  · intro blank
    rw [filled_cons, if_pos (Text.trim_eq_nil_iff.mpr blank), List.nil_append]

/-- Entries that are passed over, the last of them up to the middle, are not missed if there is
nothing in them. -/
theorem filled_passed_iff (contents : List (List Char)) (last rest : List Char)
    (others : List (List Char)) :
    filled (rest :: others) = filled (contents ++ (last ++ rest) :: others) ↔
      ∀ content ∈ contents ++ [last], Text.Blank content := by
  constructor
  · intro same
    have chars := filter_filled (rest :: others)
    have regrouped : (contents ++ (last ++ rest) :: others).flatten =
        (contents ++ [last]).flatten ++ (rest :: others).flatten := by
      simp
    rw [same, filter_filled, regrouped, List.filter_append, List.append_left_eq_self,
      List.filter_flatten, List.flatten_eq_nil_iff] at chars
    intro content member
    exact blank_iff.mpr (chars _ (List.mem_map_of_mem member))
  · intro blank
    obtain ⟨early, own⟩ := List.forall_mem_append.mp blank
    rw [filled_append, filled_of_blank early, List.nil_append, filled_cons, filled_cons,
      Text.trim_append_of_blank (own last List.mem_cons_self)]

/-- The values after some lines are those of all entries exactly if the entries in these lines are
blank, and, where there are none, what stands before the next entry is blank. -/
theorem filled_cutAtMarkers_iff (ended : Ended before) (after : List Char) :
    filled (cutAtMarkers after) = filled (entries (before ++ after)) ↔
      (∀ content ∈ entries before, Text.Blank content) ∧
        (entries before = [] → Text.Blank (lead after)) := by
  have front := entries_of_text before
  have back := entries_of_text after
  rw [back.cutAtMarkers]
  rcases List.eq_nil_or_concat (entries before) with none | ⟨contents, last, some⟩
  · rw [none] at front
    rw [none, (front.append_lead ended back).entries_eq, filled_lead_iff]
    simp
  · rw [List.concat_eq_append] at some
    rw [some] at front
    rw [some, (front.append_last ended back).entries_eq, filled_passed_iff]
    simp

end ValueList

/-! ### Shorthand texts -/

namespace Shorthand

open Text

/-- What follows the first line of a text. -/
def afterFirstLine (text : List Char) : List Char := (text.dropWhile (· != '\n')).tail

variable {text line before typeName rest : List Char} {parts : Parts}

theorem afterFirstLine_line (free : '\n' ∉ line) (rest : List Char) :
    afterFirstLine (line ++ '\n' :: rest) = rest := by
  have inside : ∀ c ∈ line, (c != '\n') = true := by
    intro c member
    exact bne_iff_ne.mpr (fun same => free (same ▸ member))
  rw [afterFirstLine, List.dropWhile_append_of_pos inside, List.dropWhile_cons_of_neg (by decide),
    List.tail_cons]

theorem afterFirstLine_append (broken : '\n' ∈ before) (after : List Char) :
    afterFirstLine (before ++ after) = afterFirstLine before ++ after := by
  obtain ⟨line, rest, rfl, free⟩ := List.eq_append_cons_of_mem broken
  rw [afterFirstLine_line free, List.append_assoc, List.cons_append, afterFirstLine_line free]

theorem not_mem_of_word (word : ∀ c ∈ text, isWord c = true) : '\n' ∉ text := by
  intro member
  have lineBreak : isWord '\n' = false := by decide +kernel
  rw [word _ member] at lineBreak
  cases lineBreak

theorem Bracketed.afterFirstLine (bracketed : Bracketed text typeName rest) (broken : '\n' ∈ rest) :
    afterFirstLine text = Shorthand.afterFirstLine rest := by
  obtain ⟨line, later, rfl, free⟩ := List.eq_append_cons_of_mem broken
  have bracketFree : '\n' ∉ '[' :: (typeName ++ ']' :: line) := by
    have typeFree := not_mem_of_word bracketed.word
    simp [typeFree, free]
  have whole : text = '[' :: (typeName ++ ']' :: line) ++ '\n' :: later := by
    rw [bracketed.text]
    simp
  rw [whole, afterFirstLine_line bracketFree, afterFirstLine_line free]

namespace Parts

/-- What stands before the line break that ends the description. -/
def opening (parts : Parts) : List Char :=
  parts.gap ++ (parts.name ++ ((if parts.required then requiredMark else []) ++
    (parts.indent ++ parts.description)))

/-- The lines after the first one that are passed over to get to the values. -/
def passed (parts : Parts) : List Char := afterFirstLine (parts.opening ++ ['\n'])

theorem Of.eq_append (of : parts.Of text) : text = parts.opening ++ ['\n'] ++ parts.values := by
  rw [of.text, opening]
  simp

theorem Of.mem_opening_iff (of : parts.Of text) :
    '\n' ∈ parts.opening ↔ '\n' ∈ parts.gap ∨ '\n' ∈ parts.indent := by
  have name : '\n' ∉ parts.name := not_mem_of_word of.name
  have mark : '\n' ∉ if parts.required then requiredMark else [] := by
    cases parts.required <;> decide
  simp [opening, name, mark, of.description]

theorem passed_of_free (free : '\n' ∉ parts.opening) : parts.passed = [] :=
  afterFirstLine_line free []

theorem passed_of_broken (broken : '\n' ∈ parts.opening) :
    parts.passed = afterFirstLine parts.opening ++ ['\n'] :=
  afterFirstLine_append broken _

theorem passed_ended (parts : Parts) : ValueList.Ended parts.passed := by
  by_cases broken : '\n' ∈ parts.opening
  · rw [passed_of_broken broken]
    simp [ValueList.Ended]
  · rw [passed_of_free broken]
    simp [ValueList.Ended]

theorem Of.passed_eq_nil_iff (of : parts.Of text) :
    parts.passed = [] ↔ '\n' ∉ parts.gap ∧ '\n' ∉ parts.indent := by
  rw [← not_or, ← of.mem_opening_iff]
  constructor
  · intro nothing broken
    rw [passed_of_broken broken] at nothing
    simp at nothing
  · exact passed_of_free

theorem values_shorthand (parts : Parts) (typeName : List Char) :
    (parts.shorthand typeName).values = ValueList.filled (ValueList.cutAtMarkers parts.values) := by
  rw [shorthand, ValueList.read, String.toList_ofList]
  rfl

end Parts

theorem exists_parts_of_read {text : String} {shorthand : Shorthand}
    (accepted : read text = .ok shorthand) :
    ∃ typeName rest, ∃ parts : Parts, Bracketed text.toList typeName rest ∧ parts.Greatest rest ∧
      shorthand = parts.shorthand typeName := by
  cases got : readChars? text.toList with
  | none =>
    rw [read, got] at accepted
    cases accepted
  | some found =>
    rw [read, got] at accepted
    obtain rfl := Except.ok.inj accepted
    obtain ⟨typeName, rest, bracketed, broken⟩ := broken_of_readChars? got
    obtain ⟨parts, greatest, same⟩ := exists_greatest bracketed broken
    exact ⟨typeName, rest, parts, bracketed, greatest, Option.some.inj (got.symm.trans same)⟩

/-- In a text that is read, lines are passed over before the values if the gap or the indent runs
over the end of a line. The values are the contents of all entries after the first line exactly if
nothing stands in the entries that are passed over, and, where none is, nothing stands before the
next one. -/
theorem read_values_iff (text : String) (shorthand : Shorthand)
    (accepted : read text = .ok shorthand) :
    ∃ typeName rest, ∃ parts : Parts, Bracketed text.toList typeName rest ∧ parts.Greatest rest ∧
      shorthand = parts.shorthand typeName ∧
      afterFirstLine text.toList = parts.passed ++ parts.values ∧
      (parts.passed = [] ↔ '\n' ∉ parts.gap ∧ '\n' ∉ parts.indent) ∧
      ∀ lead contents, ValueList.Entries (afterFirstLine text.toList) lead contents →
        (shorthand.values = ValueList.filled contents ↔
          (∀ content ∈ ValueList.entries parts.passed, Blank content) ∧
            (ValueList.entries parts.passed = [] → Blank (ValueList.lead parts.values))) := by
  obtain ⟨typeName, rest, parts, bracketed, greatest, rfl⟩ := exists_parts_of_read accepted
  have after : afterFirstLine text.toList = parts.passed ++ parts.values := by
    rw [bracketed.afterFirstLine greatest.of.broken, greatest.of.eq_append,
      afterFirstLine_append (by simp), Parts.passed]
  refine ⟨typeName, rest, parts, bracketed, greatest, rfl, after,
    greatest.of.passed_eq_nil_iff, ?_⟩
  intro lead contents found
  rw [← found.entries_eq, parts.values_shorthand, after]
  exact ValueList.filled_cutAtMarkers_iff parts.passed_ended parts.values

/-- The second line is passed over, but up to its end the entry in it is blank. -/
def lateContent : String := "[String] sort_order\n[List]\n id\n[List] created_at"

theorem read_values_iff_lateContent :
    read lateContent = .ok ⟨"String", "sort_order", false, "[List]", ["id", "created_at"]⟩ ∧
    ValueList.Entries (afterFirstLine lateContent.toList) []
      ["\n id\n".toList, " created_at".toList] ∧
    ∃ typeName rest, ∃ parts : Parts, Bracketed lateContent.toList typeName rest ∧
      parts.Greatest rest ∧ ∀ content ∈ ValueList.entries parts.passed, Blank content := by
  have accepted : read lateContent =
      .ok ⟨"String", "sort_order", false, "[List]", ["id", "created_at"]⟩ := by
    decide +kernel
  have found : ValueList.Entries (afterFirstLine lateContent.toList) []
      ["\n id\n".toList, " created_at".toList] :=
    ⟨by decide +kernel, by decide +kernel, by decide +kernel⟩
  have kept : ["id", "created_at"] =
      ValueList.filled ["\n id\n".toList, " created_at".toList] := by
    decide +kernel
  obtain ⟨typeName, rest, parts, bracketed, greatest, _, _, _, iff⟩ := read_values_iff _ _ accepted
  exact ⟨accepted, found, typeName, rest, parts, bracketed, greatest, ((iff _ _ found).mp kept).1⟩

/-- Without a description the first of several entries is taken for it; and a line before the first
entry is taken for a value. -/
theorem read_loses_entry :
    (read "[String] sort_order\n[List] id\n[List] created_at" =
        .ok ⟨"String", "sort_order", false, "[List] id", ["created_at"]⟩ ∧
      ValueList.Entries
        (afterFirstLine "[String] sort_order\n[List] id\n[List] created_at".toList) []
        [" id\n".toList, " created_at".toList] ∧
      ValueList.filled [" id\n".toList, " created_at".toList] = ["id", "created_at"]) ∧
    read "[String] sort_order Order.\nAscending:\n[List] id" =
        .ok ⟨"String", "sort_order", false, "Order.", ["Ascending:", "id"]⟩ ∧
      ValueList.Entries
        (afterFirstLine "[String] sort_order Order.\nAscending:\n[List] id".toList)
        "Ascending:\n".toList [" id".toList] ∧
      ValueList.filled [" id".toList] = ["id"] := by
  refine ⟨⟨?_, ⟨?_, ?_, ?_⟩, ?_⟩, ?_, ⟨?_, ?_, ?_⟩, ?_⟩
  all_goals decide +kernel

end Shorthand

end DocTags
