import DocTags.Text.Blank
import DocTags.Text.Pieces
import Mathlib.Data.List.TakeWhile

/-!
# Trimming, and cutting a text that was joined

Trimming takes the blanks off both ends and changes nothing else. Texts joined by a comma and a space
are found again between the commas, once they are trimmed. What they must not have is a comma or a
blank at either end. A text whose line breaks are replaced is its lines, joined by the replacement.
-/

namespace DocTags.Text

/-- A text without blanks at either end. -/
def Trimmed (text : String) : Prop := trim text.toList = text.toList

instance (text : String) : Decidable (Trimmed text) :=
  inferInstanceAs (Decidable (trim text.toList = text.toList))

variable {isCut : Char → Bool} {c : Char} {text rest : List Char}

theorem pieces_eq_splitOnP (isCut : Char → Bool) (text : List Char) :
    pieces isCut text = text.splitOnP isCut := by
  induction text with
  | nil => rfl
  | cons c rest ih =>
    rw [pieces, List.splitOnP_cons_eq_if_modifyHead, ← ih]
    cases isCut c with
    | true => rfl
    | false =>
      cases whole : pieces isCut rest with
      | nil => exact absurd (ih.symm.trans whole) (List.splitOnP_ne_nil isCut rest)
      | cons piece others => rfl

theorem flatten_pieces (isCut : Char → Bool) (text : List Char) :
    (pieces isCut text).flatten = text.filter (!isCut ·) := by
  induction text with
  | nil => rfl
  | cons c rest ih =>
    rw [pieces]
    cases cut : isCut c with
    | true => simp [cut, ih]
    | false =>
      rw [List.filter_cons_of_pos (by simp [cut]), ← ih]
      cases pieces isCut rest with
      | nil => rfl
      | cons piece others => rfl

theorem pieces_of_free (free : ∀ c ∈ text, isCut c = false) : pieces isCut text = [text] := by
  rw [pieces_eq_splitOnP, List.splitOnP_eq_singleton free]

theorem pieces_append_cons (free : ∀ c ∈ text, isCut c = false) (cut : isCut c = true) :
    pieces isCut (text ++ c :: rest) = text :: pieces isCut rest := by
  rw [pieces_eq_splitOnP, pieces_eq_splitOnP,
    List.splitOnP_append_cons_of_forall_mem free c cut rest]

theorem trim_cons_of_blank (blank : isBlank c = true) : trim (c :: text) = trim text := by
  rw [trim, trimStart, List.dropWhile_cons_of_pos blank]
  rfl

theorem trim_concat_of_blank (blank : isBlank c = true) : trim (text ++ [c]) = trim text := by
  have dropped : ∀ kept : List Char, trimEnd (kept ++ [c]) = trimEnd kept := by
    intro kept
    rw [trimEnd, List.reverse_concat, List.dropWhile_cons_of_pos blank, trimEnd]
  unfold trim trimStart
  rw [List.dropWhile_append]
  split
  · rename_i nothing
    rw [List.isEmpty_iff.mp nothing, List.dropWhile_cons_of_pos blank]
    rfl
  · exact dropped _

/-- Only the ends of what is left count when outer characters are taken away. -/
theorem stripped_eq {isOuter : Char → Bool} {before core after : List Char}
    (outerBefore : ∀ c ∈ before, isOuter c = true) (outerAfter : ∀ c ∈ after, isOuter c = true)
    (filled : core ≠ []) (first : ∀ c ∈ core.head?, isOuter c = false)
    (last : ∀ c ∈ core.getLast?, isOuter c = false) :
    (((before ++ (core ++ after)).dropWhile isOuter).reverse.dropWhile isOuter).reverse = core := by
  have kept : ∀ run rest : List Char, run ≠ [] → (∀ c ∈ run.head?, isOuter c = false) →
      (run ++ rest).dropWhile isOuter = run ++ rest := by
    intro run rest filled inner
    obtain ⟨c, run, rfl⟩ := List.exists_cons_of_ne_nil filled
    exact List.dropWhile_cons_of_neg (by simp [inner c rfl])
  rw [List.dropWhile_append_of_pos outerBefore, kept core after filled first,
    List.reverse_append, List.dropWhile_append_of_pos (by simpa using outerAfter)]
  have fromBehind := kept core.reverse [] (mt List.reverse_eq_nil_iff.mp filled)
    (by rwa [List.head?_reverse])
  rw [List.append_nil] at fromBehind
  rw [fromBehind, List.reverse_reverse]

theorem exists_stripped (isOuter : Char → Bool) (text : List Char) :
    ∃ before after, (∀ c ∈ before, isOuter c = true) ∧ (∀ c ∈ after, isOuter c = true) ∧
      text = before ++
        (((text.dropWhile isOuter).reverse.dropWhile isOuter).reverse ++ after) := by
  refine ⟨text.takeWhile isOuter, ((text.dropWhile isOuter).reverse.takeWhile isOuter).reverse,
    fun c member => List.mem_takeWhile_imp member, ?_, ?_⟩
  · intro c member
    exact List.mem_takeWhile_imp (List.mem_reverse.mp member)
  · rw [← List.reverse_append, List.takeWhile_append_dropWhile, List.reverse_reverse,
      List.takeWhile_append_dropWhile]

theorem not_isBlank_of_dropWhile (text : List Char) :
    ∀ c ∈ (text.dropWhile isBlank).head?, isBlank c = false := by
  intro c first
  have stopped := List.head?_dropWhile_not isBlank text
  rw [first] at stopped
  exact stopped

theorem getLast?_trim (text : List Char) : ∀ c ∈ (trim text).getLast?, isBlank c = false := by
  intro c last
  rw [trim, trimEnd, List.getLast?_reverse] at last
  exact not_isBlank_of_dropWhile _ c last

theorem head?_trim (text : List Char) : ∀ c ∈ (trim text).head?, isBlank c = false := by
  intro c first
  -- What is taken away at the end does not change where a text starts.
  have start :
      trimStart text = trim text ++ ((trimStart text).reverse.takeWhile isBlank).reverse := by
    rw [trim, trimEnd, ← List.reverse_append, List.takeWhile_append_dropWhile, List.reverse_reverse]
  apply not_isBlank_of_dropWhile text
  rw [← trimStart, start, List.head?_append, first]
  rfl

theorem head_of_trim (trimmed : trim text = text) : ∀ c ∈ text.head?, isBlank c = false := by
  rw [← trimmed]
  exact head?_trim text

theorem trim_of_bounded {first last : Char} (before : isBlank first = false)
    (after : isBlank last = false) :
    trim (first :: (text ++ [last])) = first :: (text ++ [last]) := by
  simp [trim, trimStart, trimEnd, before, after]

theorem trim_append_of_blank {run : List Char} (blank : ∀ c ∈ run, isBlank c = true) :
    trim (run ++ text) = trim text := by
  rw [trim, trimStart, List.dropWhile_append_of_pos blank]
  rfl

/-- Trimming takes away blanks only. -/
theorem filter_trim (text : List Char) :
    (trim text).filter (!isBlank ·) = text.filter (!isBlank ·) := by
  have dropped : ∀ kept : List Char,
      (kept.dropWhile isBlank).filter (!isBlank ·) = kept.filter (!isBlank ·) := by
    intro kept
    induction kept with
    | nil => rfl
    | cons c kept ih =>
      by_cases blank : isBlank c = true
      · rw [List.dropWhile_cons_of_pos blank, ih, List.filter_cons_of_neg (by simp [blank])]
      · rw [List.dropWhile_cons_of_neg blank]
  rw [trim, trimEnd, List.filter_reverse, dropped, List.filter_reverse, List.reverse_reverse,
    trimStart, dropped]

theorem trim_eq_nil_iff : trim text = [] ↔ ∀ c ∈ text, isBlank c = true := by
  constructor
  · intro empty
    have kept := filter_trim text
    rw [empty, List.filter_nil, eq_comm, List.filter_eq_nil_iff] at kept
    simpa using kept
  · intro blank
    have nothing : trim (text ++ []) = trim [] := trim_append_of_blank blank
    rw [List.append_nil] at nothing
    exact nothing

theorem trim_trim (text : List Char) : trim (trim text) = trim text := by
  by_cases filled : trim text = []
  · rw [filled]
    rfl
  · have core : trim ([] ++ (trim text ++ [])) = trim text :=
      stripped_eq (by simp) (by simp) filled (head?_trim text) (getLast?_trim text)
    rw [List.nil_append, List.append_nil] at core
    exact core

theorem trim_infix (text : List Char) : trim text <:+: text := by
  obtain ⟨before, after, _, _, whole⟩ := exists_stripped isBlank text
  refine ⟨before, after, ?_⟩
  rw [List.append_assoc]
  exact whole.symm

theorem trim_append_run {run : List Char} (blank : ∀ c ∈ run, isBlank c = true) :
    trim (text ++ run) = trim text := by
  induction run generalizing text with
  | nil => rw [List.append_nil]
  | cons c run ih =>
    obtain ⟨first, later⟩ := List.forall_mem_cons.mp blank
    rw [List.append_cons, ih later, trim_concat_of_blank first]

/-- Texts without the blanks around them; those that are blank are left out. -/
def nonblank (texts : List (List Char)) : List (List Char) :=
  (texts.map trim).filter (!·.isEmpty)

theorem mem_nonblank {texts : List (List Char)} :
    text ∈ nonblank texts ↔ (∃ raw ∈ texts, trim raw = text) ∧ text ≠ [] := by
  simp [nonblank]

theorem map_trim_pieces_cons (blank : isBlank c = true) (kept : isCut c = false) :
    (pieces isCut (c :: text)).map trim = (pieces isCut text).map trim := by
  rw [pieces_eq_splitOnP, pieces_eq_splitOnP, List.splitOnP_cons_eq_if_modifyHead, kept]
  cases List.splitOnP isCut text with
  | nil => rfl
  | cons piece others => simp [trim_cons_of_blank blank]

/-! ### Joined texts -/

theorem mem_of_mem_intercalate {gap : List Char} {texts : List (List Char)}
    (member : c ∈ gap.intercalate texts) : c ∈ gap ∨ ∃ text ∈ texts, c ∈ text := by
  induction texts with
  | nil => cases member
  | cons first others ih =>
    cases others with
    | nil =>
      rw [List.intercalate_singleton] at member
      exact .inr ⟨first, List.mem_cons_self, member⟩
    | cons next others =>
      rw [List.intercalate_cons_cons, List.mem_append, List.mem_append] at member
      rcases member with (own | inGap) | later
      · exact .inr ⟨first, List.mem_cons_self, own⟩
      · exact .inl inGap
      · refine (ih later).imp_right ?_
        rintro ⟨text, listed, inText⟩
        exact ⟨text, List.mem_cons_of_mem _ listed, inText⟩

theorem not_mem_intercalate {gap : List Char} {texts : List (List Char)} (between : c ∉ gap)
    (each : ∀ text ∈ texts, c ∉ text) : c ∉ gap.intercalate texts := by
  intro member
  rcases mem_of_mem_intercalate member with inGap | ⟨text, listed, inText⟩
  · exact between inGap
  · exact each text listed inText

theorem flatMap_break_eq_intercalate (gap text : List Char) :
    (text.flatMap fun c => if c == '\n' then gap else [c]) = gap.intercalate (text.splitOn '\n') := by
  induction text with
  | nil => rfl
  | cons c rest ih =>
    obtain ⟨line, others, cut⟩ := List.exists_cons_of_ne_nil (List.splitOn_ne_nil '\n' rest)
    rw [List.flatMap_cons, ih, List.splitOn_cons_eq_if_modifyHead, cut]
    cases c == '\n' with
    | true => simp
    | false => cases others <;> simp

/-- What replaces the line breaks of a text stands between its lines, and the lines are kept. -/
theorem replaceLineBreaks_eq_intercalate (lineBreak text : String) :
    replaceLineBreaks lineBreak text =
      lineBreak.intercalate ((text.toList.splitOn '\n').map String.ofList) := by
  rw [← String.toList_inj, replaceLineBreaks, String.toList_ofList, String.toList_intercalate,
    flatMap_break_eq_intercalate, List.map_map]
  simp [Function.comp_def]

/-- Texts joined by a comma and a space. -/
def joined (texts : List (List Char)) : List Char := List.intercalate ", ".toList texts

theorem joined_cons_cons (first next : List Char) (others : List (List Char)) :
    joined (first :: next :: others) = first ++ ',' :: ' ' :: joined (next :: others) := by
  rw [joined, List.intercalate_cons_cons, List.append_assoc]
  rfl

theorem map_trim_pieces_joined {first : List Char} {others : List (List Char)}
    (each : ∀ text ∈ first :: others, trim text = text ∧ ',' ∉ text) :
    (pieces (· == ',') (joined (first :: others))).map trim = first :: others := by
  have uncut : ∀ text : List Char, ',' ∉ text → ∀ c ∈ text, (c == ',') = false := by
    rintro text free c member
    rw [beq_eq_false_iff_ne]
    rintro rfl
    exact free member
  induction others generalizing first with
  | nil =>
    obtain ⟨trimmed, free⟩ := each first List.mem_cons_self
    rw [joined, List.intercalate_singleton, pieces_of_free (uncut first free), List.map_singleton,
      trimmed]
  | cons next others ih =>
    obtain ⟨⟨trimmed, free⟩, later⟩ := List.forall_mem_cons.mp each
    -- The space after the comma goes to the next piece, and trimming removes it there.
    rw [joined_cons_cons, pieces_append_cons (uncut first free) rfl, List.map_cons, trimmed,
      map_trim_pieces_cons (by decide) rfl, ih later]

end DocTags.Text
