import DocTags.Grammar.NameSlot
import DocTags.Proofs.Text.Pieces

/-!
# What a name slot holds

Every text is a name slot. The name ends where the first parenthesis stands. Options are there only
if that parenthesis opens and another one closes after it, and then nothing behind the closing one
counts. So a slot that is written with its options in parentheses, a comma between any two of them,
is read back, and blanks around the name and the options make no difference.
-/

namespace DocTags.NameSlot

def written (slot : NameSlot) : String :=
  slot.name ++ "(" ++ ", ".intercalate slot.options ++ ")"

/-- A name that can stand before parentheses. -/
structure WritableName (name : String) : Prop where
  trimmed : Text.Trimmed name
  opening : '(' ∉ name.toList
  closing : ')' ∉ name.toList

/-- An option that can stand between commas in parentheses. -/
structure WritableOption (option : String) : Prop where
  nonempty : option ≠ ""
  trimmed : Text.Trimmed option
  comma : ',' ∉ option.toList
  parenthesis : ')' ∉ option.toList

variable {slot : NameSlot} {options : List String}

/-! ### Any text -/

/-- `before` is the longest start of a text without parentheses, and `after` is what follows it. -/
structure Opening (raw before after : List Char) : Prop where
  whole : raw = before ++ after
  free : '(' ∉ before ∧ ')' ∉ before
  longest : ∀ start, start <+: raw → '(' ∉ start ∧ ')' ∉ start → start.length ≤ before.length

variable {before after inside : List Char}

theorem not_isParenthesis (free : '(' ∉ before ∧ ')' ∉ before) :
    ∀ c ∈ before, (!isParenthesis c) = true := by
  intro c member
  have opening : c ≠ '(' := fun same => free.1 (same ▸ member)
  have closing : c ≠ ')' := fun same => free.2 (same ▸ member)
  simp [isParenthesis, opening, closing]

theorem opening_takeWhile (raw : List Char) :
    Opening raw (raw.takeWhile (!isParenthesis ·)) (raw.dropWhile (!isParenthesis ·)) := by
  refine ⟨List.takeWhile_append_dropWhile.symm, ⟨?_, ?_⟩, ?_⟩
  · intro member
    exact absurd (List.mem_takeWhile_imp member) (by decide)
  · intro member
    exact absurd (List.mem_takeWhile_imp member) (by decide)
  · rintro start ⟨rest, rfl⟩ free
    rw [List.takeWhile_append_of_pos (not_isParenthesis free), List.length_append]
    exact Nat.le_add_right _ _

theorem Opening.unique {raw first rest : List Char} (opening : Opening raw before after)
    (other : Opening raw first rest) : before = first ∧ after = rest := by
  have same : before ++ after = first ++ rest := opening.whole.symm.trans other.whole
  have length : before.length = first.length :=
    Nat.le_antisymm (other.longest before ⟨after, opening.whole.symm⟩ opening.free)
      (opening.longest first ⟨rest, other.whole.symm⟩ other.free)
  exact List.append_inj same length

theorem readOptions_closed (closed : ')' ∉ inside) (rest : List Char) :
    readOptions ('(' :: (inside ++ ')' :: rest)) = Text.nonblank (inside.splitOn ',') := by
  have kept : ∀ c ∈ inside, (c != ')') = true := by
    intro c member
    rw [bne_iff_ne]
    rintro rfl
    exact closed member
  rw [readOptions, if_pos (by simp), List.takeWhile_append_of_pos kept,
    List.takeWhile_cons_of_neg (by decide), List.append_nil, Text.pieces_eq_splitOnP]
  rfl

theorem readOptions_unclosed (unclosed : ∀ rest, after = '(' :: rest → ')' ∉ rest) :
    readOptions after = [] := by
  unfold readOptions
  split
  · rename_i rest
    rw [if_neg (by simpa using unclosed rest rfl)]
  · rfl

theorem read_closed (free : '(' ∉ before ∧ ')' ∉ before) (closed : ')' ∉ inside)
    (rest : List Char) :
    read (String.ofList (before ++ '(' :: (inside ++ ')' :: rest))) =
      ⟨String.ofList (Text.trim before),
        (Text.nonblank (inside.splitOn ',')).map String.ofList⟩ := by
  have unbracketed := not_isParenthesis free
  rw [read, String.toList_ofList, List.takeWhile_append_of_pos unbracketed,
    List.dropWhile_append_of_pos unbracketed, List.takeWhile_cons_of_neg (by decide),
    List.dropWhile_cons_of_neg (by decide), readOptions_closed closed, List.append_nil]

/-! ### Slots that were written -/

theorem toList_written (slot : NameSlot) :
    slot.written.toList =
      slot.name.toList ++ '(' :: (Text.joined (slot.options.map String.toList) ++ [')']) := by
  simp [written, Text.joined, String.toList_intercalate]

theorem trimmed_pieces (writable : ∀ option ∈ options, WritableOption option) :
    ((Text.pieces (· == ',') (Text.joined (options.map String.toList))).map Text.trim).filter
      (!·.isEmpty) = options.map String.toList := by
  cases options with
  | nil => rfl
  | cons first others =>
    have each : ∀ text ∈ (first :: others).map String.toList,
        Text.trim text = text ∧ ',' ∉ text := by
      intro text member
      obtain ⟨option, listed, rfl⟩ := List.mem_map.mp member
      exact ⟨(writable option listed).trimmed, (writable option listed).comma⟩
    rw [List.map_cons] at each ⊢
    rw [Text.map_trim_pieces_joined each, ← List.map_cons, List.filter_eq_self]
    intro text member
    obtain ⟨option, listed, rfl⟩ := List.mem_map.mp member
    simpa using (writable option listed).nonempty

theorem not_mem_joined (writable : ∀ option ∈ options, WritableOption option) :
    ')' ∉ Text.joined (options.map String.toList) := by
  apply Text.not_mem_intercalate (by decide)
  intro text listed
  obtain ⟨option, isOption, rfl⟩ := List.mem_map.mp listed
  exact (writable option isOption).parenthesis

theorem read_written (name : WritableName slot.name)
    (options : ∀ option ∈ slot.options, WritableOption option) : read slot.written = slot := by
  have pieces : Text.nonblank ((Text.joined (slot.options.map String.toList)).splitOn ',') =
      slot.options.map String.toList := by
    rw [List.splitOn_eq_splitOnP, ← Text.pieces_eq_splitOnP]
    exact trimmed_pieces options
  rw [← String.ofList_toList (s := slot.written), toList_written,
    read_closed ⟨name.opening, name.closing⟩ (not_mem_joined options), pieces, name.trimmed,
    String.ofList_toList, List.map_map]
  simp

/-! ### Slots with blanks in them -/

/-- A text with blanks on either side. -/
structure Padded where
  before : List Char
  text : List Char
  after : List Char
  blank : ∀ c ∈ before ++ after, Text.isBlank c = true

namespace Padded

def whole (padded : Padded) : List Char := padded.before ++ (padded.text ++ padded.after)

theorem trim_whole (padded : Padded) : Text.trim padded.whole = Text.trim padded.text := by
  obtain ⟨before, after⟩ := List.forall_mem_append.mp padded.blank
  rw [whole, Text.trim_append_of_blank before, Text.trim_append_run after]

theorem not_mem_whole {padded : Padded} {c : Char} (visible : Text.isBlank c = false)
    (free : c ∉ padded.text) : c ∉ padded.whole := by
  have outer : c ∉ padded.before ++ padded.after := by
    intro inside
    rw [padded.blank c inside] at visible
    cases visible
  rw [List.mem_append, not_or] at outer
  rw [whole, List.mem_append, List.mem_append, not_or, not_or]
  exact ⟨outer.1, free, outer.2⟩

theorem nonblank_whole (options : List Padded) :
    Text.nonblank (options.map whole) = Text.nonblank (options.map text) := by
  have trimmed : (options.map whole).map Text.trim = (options.map text).map Text.trim := by
    simp [trim_whole]
  rw [Text.nonblank, trimmed, Text.nonblank]

end Padded

theorem splitOn_padded {options : List Padded} (free : ∀ option ∈ options, ',' ∉ option.text) :
    Text.nonblank (([','].intercalate (options.map Padded.whole)).splitOn ',') =
      Text.nonblank (options.map Padded.text) := by
  by_cases none : options = []
  · rw [none]
    rfl
  · rw [List.splitOn_intercalate ',' ?_ (by simpa using none), Padded.nonblank_whole]
    intro text listed
    obtain ⟨option, isOption, rfl⟩ := List.mem_map.mp listed
    exact Padded.not_mem_whole (by decide) (free option isOption)

theorem not_mem_padded {options : List Padded} (free : ∀ option ∈ options, ')' ∉ option.text) :
    ')' ∉ [','].intercalate (options.map Padded.whole) := by
  apply Text.not_mem_intercalate (by decide)
  intro text listed
  obtain ⟨option, isOption, rfl⟩ := List.mem_map.mp listed
  exact Padded.not_mem_whole (by decide) (free option isOption)

/-- The name is what stands before all parentheses, without the blanks around it. Options are read
only between a parenthesis that opens right there and the first one that closes, whatever follows;
nothing else gives any. Blanks around a name and its options do not count, and blank options are
left out. -/
theorem read_parenthesized :
    (∀ raw : String, ∃ before after, Opening raw.toList before after ∧
      (read raw).name = String.ofList (Text.trim before) ∧
      (∀ inside suffix, after = '(' :: (inside ++ ')' :: suffix) → ')' ∉ inside →
        (read raw).options = (Text.nonblank (inside.splitOn ',')).map String.ofList ∧
        ∀ other, read (String.ofList (before ++ '(' :: (inside ++ ')' :: other))) = read raw) ∧
      ((∀ rest, after = '(' :: rest → ')' ∉ rest) → (read raw).options = [])) ∧
    ∀ (name : Padded) (options : List Padded) (suffix : List Char),
      '(' ∉ name.text ∧ ')' ∉ name.text →
      (∀ option ∈ options, ',' ∉ option.text ∧ ')' ∉ option.text) →
      read (String.ofList
          (name.whole ++ '(' :: ([','].intercalate (options.map Padded.whole) ++ ')' :: suffix))) =
        ⟨String.ofList (Text.trim name.text),
          (Text.nonblank (options.map Padded.text)).map String.ofList⟩ := by
  constructor
  · intro raw
    have opening := opening_takeWhile raw.toList
    refine ⟨_, _, opening, rfl, ?_, ?_⟩
    · intro inside suffix parenthesized closed
      have result := read_closed opening.free closed
      have whole : raw = String.ofList (raw.toList.takeWhile (!isParenthesis ·) ++
          '(' :: (inside ++ ')' :: suffix)) := by
        rw [← parenthesized, ← opening.whole, String.ofList_toList]
      have own := result suffix
      rw [← whole] at own
      exact ⟨congrArg options own, fun other => (result other).trans own.symm⟩
    · intro unclosed
      rw [read, readOptions_unclosed unclosed]
      rfl
  · intro name options suffix free each
    have visible : '(' ∉ name.whole ∧ ')' ∉ name.whole :=
      ⟨Padded.not_mem_whole (by decide) free.1, Padded.not_mem_whole (by decide) free.2⟩
    rw [read_closed visible (not_mem_padded fun option member => (each option member).2),
      splitOn_padded fun option member => (each option member).1, name.trim_whole]

def statusName : Padded :=
  ⟨"  ".toList, "status".toList, "\t".toList, List.all_eq_true.mp (by decide)⟩

/-- One option is blank, and one has an opening parenthesis. -/
def statusOptions : List Padded :=
  [⟨" ".toList, "required".toList, [], List.all_eq_true.mp (by decide)⟩,
   ⟨"\n".toList, [], [], List.all_eq_true.mp (by decide)⟩,
   ⟨[], "(body".toList, " ".toList, List.all_eq_true.mp (by decide)⟩]

theorem read_parenthesized_status :
    ('(' ∉ statusName.text ∧ ')' ∉ statusName.text) ∧
    (∀ option ∈ statusOptions, ',' ∉ option.text ∧ ')' ∉ option.text) ∧
    read "  status\t( required,\n,(body ) (path)" = ⟨"status", ["required", "(body"]⟩ ∧
    (read "status(body)x)").options = ["body"] ∧
    (read "status)(body)").options = [] := by
  have name : '(' ∉ statusName.text ∧ ')' ∉ statusName.text := by decide
  have options : ∀ option ∈ statusOptions, ',' ∉ option.text ∧ ')' ∉ option.text := by decide
  refine ⟨name, options, ?_, ?_, ?_⟩
  · exact read_parenthesized.2 statusName statusOptions " (path)".toList name options
  · obtain ⟨before, after, opening, _, closed, _⟩ := read_parenthesized.1 "status(body)x)"
    have rest : after = '(' :: ("body".toList ++ ')' :: "x)".toList) :=
      (opening.unique (opening_takeWhile _)).2
    exact (closed _ _ rest (by decide)).1
  · obtain ⟨before, after, opening, _, _, unclosed⟩ := read_parenthesized.1 "status)(body)"
    apply unclosed
    rw [(opening.unique (opening_takeWhile _)).2]
    intro rest begins
    cases begins

end DocTags.NameSlot
