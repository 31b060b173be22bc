import DocTags.Grammar.ValueList
import DocTags.Proofs.Text.Pieces

/-!
# Lists of values are read back

Cutting at a marker is independent of what stands on either side of it: no two markers overlap, so a
text that is put together around a marker has the pieces of its parts. From this, values that are
written one to a line, each after its marker, are found again. Every value that is read from any
text could have been written.
-/

namespace DocTags.ValueList

def marker : List Char := "[List]".toList

variable {c : Char} {text rest before after first : List Char} {contents : List (List Char)}

theorem cutAtMarkers_marker (rest : List Char) :
    cutAtMarkers (marker ++ rest) = [] :: cutAtMarkers rest :=
  rfl

theorem cutAtMarkers_ne_nil (text : List Char) : cutAtMarkers text ≠ [] := by
  fun_cases cutAtMarkers text
  all_goals simp

theorem cutAtMarkers_cons (other : ¬ marker <+: c :: rest) :
    cutAtMarkers (c :: rest) = (cutAtMarkers rest).modifyHead (c :: ·) := by
  obtain ⟨piece, others, found⟩ := List.exists_cons_of_ne_nil (cutAtMarkers_ne_nil rest)
  rw [found, List.modifyHead_cons]
  unfold cutAtMarkers
  split
  · rename_i tail whole
    exact absurd (whole ▸ List.prefix_append marker tail) other
  · rename_i same
    obtain ⟨rfl, rfl⟩ := List.cons.inj same
    rw [found]
  · rename_i empty
    cases empty

/-- A marker that begins before another one ends before it. -/
theorem not_marker_prefix_append (other : ¬ marker <+: c :: rest) (after : List Char) :
    ¬ marker <+: c :: rest ++ (marker ++ after) := by
  intro begins
  rcases List.prefix_or_prefix_of_prefix begins (List.prefix_append _ _) with inside | across
  · exact other inside
  · obtain ⟨remainder, whole⟩ := across
    cases remainder with
    | nil =>
      rw [List.append_nil] at whole
      exact other (whole ▸ List.prefix_refl _)
    | cons d last =>
      -- Then it would have an opening bracket after its first character.
      have continued : c :: rest ++ d :: last <+: c :: rest ++ (marker ++ after) := whole ▸ begins
      have bracket : d = '[' :=
        (List.cons_prefix_cons.mp ((List.prefix_append_right_inj _).mp continued)).1
      have tail : rest ++ d :: last = "List]".toList := (List.cons.inj whole).2
      have member : d ∈ "List]".toList := tail ▸ List.mem_append_right _ List.mem_cons_self
      rw [bracket] at member
      exact absurd member (by decide)

theorem cutAtMarkers_append (before after : List Char) :
    cutAtMarkers (before ++ (marker ++ after)) = cutAtMarkers before ++ cutAtMarkers after := by
  induction before using cutAtMarkers.induct with
  | case1 rest ih =>
    calc
      cutAtMarkers (marker ++ (rest ++ (marker ++ after))) =
          [] :: cutAtMarkers (rest ++ (marker ++ after)) := cutAtMarkers_marker _
      _ = [] :: cutAtMarkers rest ++ cutAtMarkers after := by rw [ih, List.cons_append]
      _ = cutAtMarkers (marker ++ rest) ++ cutAtMarkers after := by rw [cutAtMarkers_marker]
  | case2 c rest _ none => exact absurd none (cutAtMarkers_ne_nil rest)
  | case3 c rest notMarker piece others found ih =>
    have other : ¬ marker <+: c :: rest := by
      rintro ⟨tail, whole⟩
      obtain ⟨first, later⟩ := List.cons.inj whole
      exact notMarker tail first.symm later.symm
    have uncut := not_marker_prefix_append other after
    rw [List.cons_append] at uncut ⊢
    rw [cutAtMarkers_cons uncut, cutAtMarkers_cons other, ih, found]
    rfl
  | case4 => exact cutAtMarkers_marker after

theorem cutAtMarkers_of_free (free : ¬ marker <:+: text) : cutAtMarkers text = [text] := by
  induction text with
  | nil => rfl
  | cons c rest ih =>
    rw [List.infix_cons_iff, not_or] at free
    rw [cutAtMarkers_cons free.1, ih free.2, List.modifyHead_cons]

/-! ### Entries -/

/-- A text consists of what stands before the first marker, and of the contents of its entries with
a marker before each. -/
structure Entries (text lead : List Char) (contents : List (List Char)) : Prop where
  text : text = lead ++ contents.flatMap (marker ++ ·)
  lead : ¬ marker <:+: lead
  contents : ∀ content ∈ contents, ¬ marker <:+: content

theorem Entries.cutAtMarkers (entries : Entries text first contents) :
    cutAtMarkers text = first :: contents := by
  obtain ⟨rfl, free, contentsFree⟩ := entries
  induction contents generalizing first with
  | nil => simp [cutAtMarkers_of_free free]
  | cons content contents ih =>
    obtain ⟨own, later⟩ := List.forall_mem_cons.mp contentsFree
    rw [List.flatMap_cons, List.append_assoc, cutAtMarkers_append, cutAtMarkers_of_free free,
      ih own later]
    rfl

theorem exists_entries (text : List Char) : ∃ first contents, Entries text first contents := by
  induction text using ValueList.cutAtMarkers.induct with
  | case1 rest ih =>
    obtain ⟨first, contents, whole, free, contentsFree⟩ := ih
    refine ⟨[], first :: contents, ?_, by decide, List.forall_mem_cons.mpr ⟨free, contentsFree⟩⟩
    rw [whole]
    rfl
  | case2 c rest _ none => exact absurd none (cutAtMarkers_ne_nil rest)
  | case3 c rest notMarker piece others found ih =>
    obtain ⟨first, contents, whole, free, contentsFree⟩ := ih
    refine ⟨c :: first, contents, by rw [whole, List.cons_append], ?_, contentsFree⟩
    intro inside
    rcases List.infix_cons_iff.mp inside with begins | later
    · obtain ⟨tail, same⟩ := begins
      obtain ⟨sameHead, sameTail⟩ := List.cons.inj same
      refine notMarker (tail ++ contents.flatMap (marker ++ ·)) sameHead.symm ?_
      rw [whole, ← sameTail]
      rfl
    · exact free later
  | case4 => exact ⟨[], [], rfl, by decide, by simp⟩

theorem not_marker_infix {piece : List Char} (member : piece ∈ cutAtMarkers text) :
    ¬ marker <:+: piece := by
  obtain ⟨first, contents, found⟩ := exists_entries text
  rw [found.cutAtMarkers] at member
  rcases List.mem_cons.mp member with rfl | later
  · exact found.lead
  · exact found.contents piece later

/-! ### Reading -/

theorem readChars_append (before after : List Char) :
    readChars (before ++ (marker ++ after)) = readChars before ++ readChars after := by
  unfold readChars
  rw [cutAtMarkers_append, List.map_append, List.filter_append]

theorem readChars_marker (rest : List Char) : readChars (marker ++ rest) = readChars rest :=
  readChars_append [] rest

theorem readChars_of_free (free : ¬ marker <:+: text) (filled : Text.trim text ≠ []) :
    readChars text = [Text.trim text] := by
  unfold readChars
  rw [cutAtMarkers_of_free free]
  simp [filled]

theorem free_cons_of_blank (blank : Text.isBlank c = true) (free : ¬ marker <:+: text) :
    ¬ marker <:+: c :: text := by
  intro inside
  rcases List.infix_cons_iff.mp inside with begins | later
  · have bracket : '[' = c := (List.cons_prefix_cons.mp begins).1
    rw [← bracket] at blank
    exact absurd blank (by decide)
  · exact free later

theorem free_concat_of_blank (blank : Text.isBlank c = true) (free : ¬ marker <:+: text) :
    ¬ marker <:+: text ++ [c] := by
  intro inside
  rcases List.infix_concat_iff.mp inside with ends | earlier
  · rcases List.suffix_concat_iff.mp ends with empty | ⟨start, whole, _⟩
    · cases empty
    · have last : marker.getLast? = some c := by rw [whole, List.getLast?_concat]
      have bracket : ']' = c := Option.some.inj last
      rw [← bracket] at blank
      exact absurd blank (by decide)
  · exact free earlier

/-! ### Writing -/

/-- A value that can stand after its marker. -/
structure Writable (value : String) : Prop where
  nonempty : value ≠ ""
  trimmed : Text.Trimmed value
  unmarked : ¬ marker <:+: value.toList

/-- Values, one to a line, each after its marker. -/
def written (values : List String) : String := "\n".intercalate (values.map ("[List] " ++ ·))

variable {value : String} {values : List String}

theorem toList_entry (value : String) :
    ("[List] " ++ value).toList = marker ++ ' ' :: value.toList := by
  rw [String.toList_append]
  rfl

theorem toList_written_singleton (value : String) :
    (written [value]).toList = marker ++ ' ' :: value.toList := by
  rw [written, String.toList_intercalate, List.map_singleton, List.map_singleton,
    List.intercalate_singleton, toList_entry]

theorem toList_written_cons_cons (first next : String) (others : List String) :
    (written (first :: next :: others)).toList =
      marker ++ (' ' :: (first.toList ++ ['\n']) ++ (written (next :: others)).toList) := by
  simp only [written, String.toList_intercalate, List.map_cons, List.intercalate_cons_cons,
    toList_entry, List.append_assoc, List.cons_append]
  rfl

theorem toList_written_cons (first : String) (others : List String) :
    ∃ rest, (written (first :: others)).toList = marker ++ rest := by
  cases others with
  | nil => exact ⟨_, toList_written_singleton first⟩
  | cons next others => exact ⟨_, toList_written_cons_cons first next others⟩

theorem Writable.readChars_of_trim (writable : Writable value) (free : ¬ marker <:+: text)
    (trimmed : Text.trim text = value.toList) : readChars text = [value.toList] := by
  have filled : Text.trim text ≠ [] := by simpa [trimmed] using writable.nonempty
  rw [readChars_of_free free filled, trimmed]

theorem Writable.readChars_last (writable : Writable value) :
    readChars (' ' :: value.toList) = [value.toList] := by
  apply writable.readChars_of_trim
  · exact free_cons_of_blank (by decide) writable.unmarked
  · rw [Text.trim_cons_of_blank (by decide), writable.trimmed]

theorem Writable.readChars_line (writable : Writable value) :
    readChars (' ' :: (value.toList ++ ['\n'])) = [value.toList] := by
  apply writable.readChars_of_trim
  · apply free_cons_of_blank (by decide)
    exact free_concat_of_blank (by decide) writable.unmarked
  · rw [Text.trim_cons_of_blank (by decide), Text.trim_concat_of_blank (by decide),
      writable.trimmed]

theorem readChars_written (writable : ∀ value ∈ values, Writable value) :
    readChars (written values).toList = values.map String.toList := by
  induction values with
  | nil => rfl
  | cons first others ih =>
    obtain ⟨own, later⟩ := List.forall_mem_cons.mp writable
    cases others with
    | nil => rw [toList_written_singleton, readChars_marker, own.readChars_last, List.map_singleton]
    | cons next others =>
      -- The value ends at its line break, since the next line begins with a marker.
      obtain ⟨rest, begins⟩ := toList_written_cons next others
      rw [begins, readChars_marker] at ih
      rw [toList_written_cons_cons, readChars_marker, begins, readChars_append, own.readChars_line,
        ih later]
      rfl

theorem read_written (writable : ∀ value ∈ values, Writable value) :
    read (written values) = values := by
  rw [read, readChars_written writable, List.map_map]
  simp

/-! ### Values of any text -/

theorem writable_of_mem_read {text : String} (member : value ∈ read text) : Writable value := by
  obtain ⟨chars, listed, rfl⟩ := List.mem_map.mp member
  obtain ⟨⟨piece, cut, rfl⟩, filled⟩ := Text.mem_nonblank.mp listed
  refine ⟨by simpa using filled, ?_, ?_⟩
  · rw [Text.Trimmed, String.toList_ofList, Text.trim_trim]
  · rw [String.toList_ofList]
    intro inside
    exact not_marker_infix cut (inside.trans (Text.trim_infix piece))

/-- A marker anywhere in a text parts its values, whatever stands on either side; without a marker
the text itself is the value, unless it is blank. All values are filled, trimmed and free of
markers. -/
theorem read_marked :
    (∀ before after : String, read (before ++ "[List]" ++ after) = read before ++ read after) ∧
    (∀ text : String, ¬ marker <:+: text.toList →
      read text = (Text.nonblank [text.toList]).map String.ofList) ∧
    ∀ text : String, ∀ value ∈ read text,
      value ≠ "" ∧ Text.Trimmed value ∧ ¬ marker <:+: value.toList := by
  refine ⟨fun before after => ?_, fun text free => ?_, fun text value member => ?_⟩
  · have whole : (before ++ "[List]" ++ after).toList =
        before.toList ++ (marker ++ after.toList) := by
      rw [String.toList_append, String.toList_append, List.append_assoc]
      rfl
    rw [read, whole, readChars_append, List.map_append, read, read]
  · rw [read, readChars, cutAtMarkers_of_free free]
    rfl
  · have writable := writable_of_mem_read member
    exact ⟨writable.nonempty, writable.trimmed, writable.unmarked⟩

/-- Pieces of the marker on either side of it. -/
theorem read_marked_pieces :
    read "a [Lis[List]t] \n[List]\n" = ["a [Lis", "t]"] ∧
    "t]" ∈ read "a [Lis[List]t] \n[List]\n" ∧
    ("t]" ≠ "" ∧ Text.Trimmed "t]" ∧ ¬ marker <:+: "t]".toList) := by
  have text : "a [Lis[List]t] \n[List]\n" =
      "a [Lis" ++ "[List]" ++ ("t] \n" ++ "[List]" ++ "\n") := by decide +kernel
  have values : read "a [Lis[List]t] \n[List]\n" = ["a [Lis", "t]"] := by
    rw [text, read_marked.1, read_marked.1, read_marked.2.1 "a [Lis" (by decide +kernel),
      read_marked.2.1 "t] \n" (by decide +kernel), read_marked.2.1 "\n" (by decide +kernel)]
    rfl
  have member : "t]" ∈ read "a [Lis[List]t] \n[List]\n" := by
    rw [values]
    decide
  exact ⟨values, member, read_marked.2.2 _ _ member⟩

end DocTags.ValueList
