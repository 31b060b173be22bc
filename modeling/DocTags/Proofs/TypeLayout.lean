import DocTags.Proofs.TypeRef
import Mathlib.Data.List.Basic

/-!
# Types as fragments between brackets

How many angle brackets stand between two fragments of a type, which of them they are and whether
they match does not count, nor do brackets and blanks around all of it. A `Layout` is one way to
write fragments down, and whatever the layout, the last fragment is the name and any of them can say
that the type is an array. Blanks beside a bracket belong to the fragment there; only blanks at the
very ends are taken off. Every text has a layout unless nothing but brackets is left of it.
-/

namespace DocTags.TypeRef

/-- Fragments in order, with runs of brackets between any two of them and perhaps around all. -/
structure Bracketing where
  opening : List Char
  first : List Char
  /-- The other fragments, each with the brackets in front of it. -/
  later : List (List Char × List Char)
  closing : List Char
  outer : ∀ c ∈ opening ++ closing, isAngle c = true
  gaps : ∀ part ∈ later, part.1 ≠ [] ∧ ∀ c ∈ part.1, isAngle c = true
  free : ∀ fragment ∈ first :: later.map Prod.snd,
    fragment ≠ [] ∧ ∀ c ∈ fragment, isAngle c = false

namespace Bracketing

def fragments (written : Bracketing) : List (List Char) :=
  written.first :: written.later.map Prod.snd

def last (written : Bracketing) : List Char := written.fragments.getLast (List.cons_ne_nil _ _)

/-- Everything between the outer brackets. -/
def body (written : Bracketing) : List Char :=
  written.first ++ written.later.flatMap fun part => part.1 ++ part.2

def text (written : Bracketing) : List Char :=
  written.opening ++ (written.body ++ written.closing)

end Bracketing

/-- Fragments between brackets, with blanks around. Where there are no outer brackets, the blanks
end where the fragment starts. -/
structure Layout extends Bracketing where
  before : List Char
  after : List Char
  blank : ∀ c ∈ before ++ after, Text.isBlank c = true
  leading : opening = [] → ∀ c ∈ first.head?, Text.isBlank c = false
  trailing : closing = [] → ∀ c ∈ toBracketing.last.getLast?, Text.isBlank c = false

def Layout.raw (layout : Layout) : List Char := layout.before ++ (layout.text ++ layout.after)

/-- What stands between the brackets of a text, blanks included. -/
def between (text : List Char) : List (List Char) :=
  (Text.pieces isAngle text).filter (!·.isEmpty)

variable {c : Char} {run text rest first : List Char} {later : List (List Char × List Char)}

theorem not_isBlank_of_isAngle (bracket : isAngle c = true) : Text.isBlank c = false := by
  simp only [isAngle, Bool.or_eq_true, beq_iff_eq] at bracket
  rcases bracket with rfl | rfl <;> decide

/-! ### Reading a layout -/

theorem between_append_cons (text rest : List Char) (bracket : isAngle c = true) :
    between (text ++ c :: rest) = between text ++ between rest := by
  simp only [between, Text.pieces_eq_splitOnP, List.splitOnP_append_cons _ _ bracket,
    List.filter_append]

theorem between_run_append (text : List Char) (brackets : ∀ c ∈ run, isAngle c = true) :
    between (run ++ text) = between text := by
  induction run with
  | nil => rfl
  | cons c run ih =>
    obtain ⟨bracket, brackets⟩ := List.forall_mem_cons.mp brackets
    exact (between_append_cons [] (run ++ text) bracket).trans (ih brackets)

theorem between_append_run (text : List Char) (brackets : ∀ c ∈ run, isAngle c = true) :
    between (text ++ run) = between text := by
  cases run with
  | nil => rw [List.append_nil]
  | cons c run =>
    obtain ⟨bracket, brackets⟩ := List.forall_mem_cons.mp brackets
    have nothing : between (run ++ []) = [] := between_run_append [] brackets
    rw [List.append_nil] at nothing
    rw [between_append_cons text run bracket, nothing, List.append_nil]

theorem between_of_free (filled : text ≠ []) (free : ∀ c ∈ text, isAngle c = false) :
    between text = [text] := by
  rw [between, Text.pieces_of_free free]
  simp [filled]

theorem between_body
    (gaps : ∀ part ∈ later, part.1 ≠ [] ∧ ∀ c ∈ part.1, isAngle c = true)
    (free : ∀ fragment ∈ first :: later.map Prod.snd,
      fragment ≠ [] ∧ ∀ c ∈ fragment, isAngle c = false) :
    between (first ++ later.flatMap fun part => part.1 ++ part.2) =
      first :: later.map Prod.snd := by
  induction later generalizing first with
  | nil =>
    obtain ⟨filled, uncut⟩ := free first List.mem_cons_self
    rw [List.flatMap_nil, List.append_nil, between_of_free filled uncut]
    rfl
  | cons part later ih =>
    obtain ⟨gap, next⟩ := part
    obtain ⟨⟨separated, brackets⟩, laterGaps⟩ := List.forall_mem_cons.mp gaps
    obtain ⟨⟨filled, uncut⟩, laterFree⟩ := List.forall_mem_cons.mp free
    obtain ⟨c, gap, rfl⟩ := List.exists_cons_of_ne_nil separated
    obtain ⟨bracket, brackets⟩ := List.forall_mem_cons.mp brackets
    rw [List.flatMap_cons, List.append_assoc, List.cons_append,
      between_append_cons first _ bracket, between_run_append _ brackets, ih laterGaps laterFree,
      between_of_free filled uncut]
    rfl

theorem getLast?_body (free : ∀ fragment ∈ first :: later.map Prod.snd, fragment ≠ []) :
    (first ++ later.flatMap fun part => part.1 ++ part.2).getLast? =
      ((first :: later.map Prod.snd).getLast (List.cons_ne_nil _ _)).getLast? := by
  induction later generalizing first with
  | nil => simp
  | cons part later ih =>
    have next := ih (List.forall_mem_cons.mp free).2
    have filled : part.2 ++ later.flatMap (fun part => part.1 ++ part.2) ≠ [] :=
      List.append_ne_nil_of_left_ne_nil (free part.2 (by simp)) _
    rw [List.flatMap_cons, List.append_assoc, ← List.append_assoc first,
      List.getLast?_append_of_ne_nil _ filled, next]
    rfl

theorem Bracketing.body_ne_nil (written : Bracketing) : written.body ≠ [] :=
  List.append_ne_nil_of_left_ne_nil (written.free written.first List.mem_cons_self).1 _

theorem Bracketing.head?_text {written : Bracketing} (closed : written.opening = []) :
    written.text.head? = written.first.head? := by
  have filled := (written.free written.first List.mem_cons_self).1
  rw [text, closed, body, List.nil_append, List.append_assoc, List.head?_append_of_ne_nil _ filled]

theorem Bracketing.getLast?_text {written : Bracketing} (closed : written.closing = []) :
    written.text.getLast? = written.last.getLast? := by
  rw [text, closed, List.append_nil, List.getLast?_append_of_ne_nil _ written.body_ne_nil, body,
    getLast?_body fun fragment member => (written.free fragment member).1]
  rfl

namespace Layout

theorem not_isBlank_head (layout : Layout) : ∀ c ∈ layout.text.head?, Text.isBlank c = false := by
  intro c start
  cases opening : layout.opening with
  | nil =>
    rw [Bracketing.head?_text opening] at start
    exact layout.leading opening c start
  | cons bracket run =>
    rw [Bracketing.text, opening] at start
    obtain rfl := Option.some.inj start
    exact not_isBlank_of_isAngle (layout.outer bracket (by simp [opening]))

theorem not_isBlank_getLast (layout : Layout) :
    ∀ c ∈ layout.text.getLast?, Text.isBlank c = false := by
  intro c final
  by_cases closing : layout.closing = []
  · rw [Bracketing.getLast?_text closing] at final
    exact layout.trailing closing c final
  · rw [Bracketing.text, ← List.append_assoc, List.getLast?_append_of_ne_nil _ closing] at final
    exact not_isBlank_of_isAngle
      (layout.outer c (List.mem_append_right _ (List.mem_of_mem_getLast? final)))

theorem trim_raw (layout : Layout) : Text.trim layout.raw = layout.text := by
  obtain ⟨blankBefore, blankAfter⟩ := List.forall_mem_append.mp layout.blank
  have filled : layout.text ≠ [] := by
    simp [Bracketing.text, layout.body_ne_nil]
  exact Text.stripped_eq blankBefore blankAfter filled layout.not_isBlank_head
    layout.not_isBlank_getLast

theorem fragments_raw (layout : Layout) : TypeRef.fragments layout.raw = layout.fragments := by
  obtain ⟨opening, closing⟩ := List.forall_mem_append.mp layout.outer
  calc
    TypeRef.fragments layout.raw = between layout.text := by
      rw [TypeRef.fragments, layout.trim_raw]
      rfl
    _ = between layout.body := by
      rw [Bracketing.text, between_run_append _ opening, between_append_run _ closing]
    _ = layout.fragments := between_body layout.gaps layout.free

end Layout

/-! ### Finding a layout -/

/-- A bracket in front belongs to the opening run. -/
def Bracketing.consBracket (written : Bracketing) (bracket : isAngle c = true) : Bracketing :=
  { written with
    opening := c :: written.opening
    outer := List.forall_mem_cons.mpr ⟨bracket, written.outer⟩ }

/-- Another character in front belongs to the first fragment, if nothing opens before it. -/
def Bracketing.consFirst (written : Bracketing) (kept : isAngle c = false) : Bracketing :=
  { written with
    first := c :: written.first
    free := by
      obtain ⟨⟨_, uncut⟩, later⟩ := List.forall_mem_cons.mp written.free
      exact List.forall_mem_cons.mpr
        ⟨⟨List.cons_ne_nil _ _, List.forall_mem_cons.mpr ⟨kept, uncut⟩⟩, later⟩ }

/-- Otherwise it is a fragment of its own, and what opened before the others separates them. -/
def Bracketing.consFragment (written : Bracketing) (kept : isAngle c = false)
    (opened : written.opening ≠ []) : Bracketing where
  opening := []
  first := [c]
  later := (written.opening, written.first) :: written.later
  closing := written.closing
  outer := (List.forall_mem_append.mp written.outer).2
  gaps := List.forall_mem_cons.mpr
    ⟨⟨opened, (List.forall_mem_append.mp written.outer).1⟩, written.gaps⟩
  free := List.forall_mem_cons.mpr ⟨⟨List.cons_ne_nil _ _, by simpa using kept⟩, written.free⟩

def Bracketing.single (kept : isAngle c = false) (brackets : ∀ c ∈ text, isAngle c = true) :
    Bracketing where
  opening := []
  first := [c]
  later := []
  closing := text
  outer := brackets
  gaps := by simp
  free := by simpa using kept

theorem exists_bracketing (text : List Char) :
    (∀ c ∈ text, isAngle c = true) ∨ ∃ written : Bracketing, written.text = text := by
  -- From right to left, the first run of brackets is open to the left until a character meets it.
  induction text with
  | nil => exact .inl (by simp)
  | cons c text ih =>
    cases bracket : isAngle c with
    | true =>
      rcases ih with brackets | ⟨written, rfl⟩
      · exact .inl (List.forall_mem_cons.mpr ⟨bracket, brackets⟩)
      · exact .inr ⟨written.consBracket bracket, rfl⟩
    | false =>
      right
      rcases ih with brackets | ⟨written, rfl⟩
      · exact ⟨.single bracket brackets, rfl⟩
      · by_cases opened : written.opening = []
        · refine ⟨written.consFirst bracket, ?_⟩
          simp [Bracketing.text, Bracketing.body, Bracketing.consFirst, opened]
        · refine ⟨written.consFragment bracket opened, ?_⟩
          simp [Bracketing.text, Bracketing.body, Bracketing.consFragment]

variable {raw : String}

theorem exists_layout (named : ¬ Unnamed raw) : ∃ layout : Layout, layout.raw = raw.toList := by
  obtain ⟨before, after, blankBefore, blankAfter, whole⟩ :=
    Text.exists_stripped Text.isBlank raw.toList
  rcases exists_bracketing (Text.trim raw.toList) with brackets | ⟨written, trimmed⟩
  · refine absurd (fun c member => ?_) named
    simpa [isAngle] using brackets c member
  · have start := Text.head?_trim raw.toList
    have final := Text.getLast?_trim raw.toList
    rw [← trimmed] at start final
    have leading : written.opening = [] → ∀ c ∈ written.first.head?, Text.isBlank c = false := by
      intro opening
      rwa [Bracketing.head?_text opening] at start
    have trailing : written.closing = [] →
        ∀ c ∈ written.last.getLast?, Text.isBlank c = false := by
      intro closing
      rwa [Bracketing.getLast?_text closing] at final
    refine ⟨⟨written, before, after, List.forall_mem_append.mpr ⟨blankBefore, blankAfter⟩,
      leading, trailing⟩, ?_⟩
    calc
      before ++ (written.text ++ after) = before ++ (Text.trim raw.toList ++ after) := by
        rw [trimmed]
      _ = raw.toList := whole.symm

theorem any_isArrayWord (fragments : List (List Char)) :
    fragments.any isArrayWord =
      decide (∃ fragment ∈ fragments, Text.lower fragment = "array".toList) := by
  rw [Bool.eq_iff_iff]
  simp [isArrayWord]

/-- Whatever its layout, a type has its last fragment for a name and is an array if one of the
fragments says so. A text without a layout is refused, and these are the texts of which nothing but
brackets is left once they are trimmed. -/
theorem parse_layout (settings : Settings) :
    (∀ layout : Layout, parse (.ok settings) (String.ofList layout.raw) =
      .ok
        { name := String.ofList layout.last
          array := decide (∃ fragment ∈ layout.fragments, Text.lower fragment = "array".toList)
          kind := classify settings (String.ofList layout.last) }) ∧
    ∀ raw : String,
      ((∃ layout : Layout, layout.raw = raw.toList) ∨
        ∃ error, parse (.ok settings) raw = .error (.tag error) ∧ error.kind = .malformedTag) ∧
      ((∃ error, parse (.ok settings) raw = .error (.tag error) ∧ error.kind = .malformedTag) ↔
        ∀ c ∈ Text.trim raw.toList, c = '<' ∨ c = '>') := by
  refine ⟨fun layout => ?_, fun raw => ⟨?_, ?_, ?_⟩⟩
  · have name : layout.fragments.getLast? = some layout.last :=
      List.getLast?_eq_some_getLast (List.cons_ne_nil _ _)
    rw [parse, String.toList_ofList, layout.fragments_raw, name, any_isArrayWord]
    rfl
  · by_cases unnamed : Unnamed raw
    · exact .inr ⟨_, parse_of_unnamed _ unnamed, rfl⟩
    · exact .inl (exists_layout unnamed)
  · rintro ⟨error, refused, _⟩
    by_contra named
    obtain ⟨type, read⟩ := parse_of_named settings named
    rw [refused] at read
    cases read
  · exact fun unnamed => ⟨_, parse_of_unnamed _ unnamed, rfl⟩

/-- Brackets that do not match, and a blank between a bracket and the fragment after it. -/
def unbalanced : Layout where
  before := ['\t']
  opening := ['>']
  first := "Array".toList
  later := [("<<".toList, " Widget".toList)]
  closing := []
  after := ['\n']
  outer := by simp [isAngle]
  gaps := by simp [isAngle]
  free := by simp [isAngle]
  blank := List.forall_mem_append.mpr ⟨List.forall_mem_singleton.mpr (by decide),
    List.forall_mem_singleton.mpr (by decide)⟩
  leading := nofun
  trailing := fun _ c final => Option.some.inj final ▸ by decide

theorem parse_layout_unbalanced :
    parse (.ok .standard) "\t>Array<< Widget\n" = .ok ⟨" Widget", true, .reference⟩ := by
  have text : String.ofList unbalanced.raw = "\t>Array<< Widget\n" := by decide +kernel
  rw [← text, (parse_layout .standard).1 unbalanced]
  rfl

end DocTags.TypeRef
