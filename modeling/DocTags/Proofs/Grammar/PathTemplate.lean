import DocTags.Grammar.PathTemplate

/-!
# Placeholders by cutting

The scan through a path finds what one also finds without a scan: cut the path at every closing
brace, leave out the last piece, which nothing closes, and take from each of the others what follows
its first opening brace. In a path that was put together from literal texts and placeholders, these
are the names that were put in.
-/

namespace DocTags.PathTemplate

/-- What follows the first opening brace of a piece, if it has one. -/
def afterBrace? (piece : List Char) : Option (List Char) :=
  (piece.dropWhile (· != '{')).tail?

/-- The names in a text that is cut at every closing brace. -/
def cutNames (text : List Char) : List (List Char) :=
  ((text.splitOn '}').dropLast.filterMap afterBrace?).filter (!·.isEmpty)

variable {c : Char} {name text piece rest : List Char}

theorem afterBrace?_brace (rest : List Char) : afterBrace? ('{' :: rest) = some rest := rfl

theorem afterBrace?_cons (other : c ≠ '{') : afterBrace? (c :: rest) = afterBrace? rest := by
  rw [afterBrace?, List.dropWhile_cons_of_pos (by simpa using other), afterBrace?]

/-! ### The scan from one closing brace to the next -/

theorem scan_unclosed (unclosed : '}' ∉ text) (reading : Option (List Char)) :
    scan reading text = [] := by
  induction text generalizing reading with
  | nil => cases reading <;> rfl
  | cons c text ih =>
    rw [List.mem_cons, not_or] at unclosed
    cases reading with
    | none => exact ih unclosed.2 _
    | some name =>
      rw [scan, if_neg (Ne.symm unclosed.1)]
      exact ih unclosed.2 _

theorem scan_some (inside : '}' ∉ text) (name rest : List Char) :
    scan (some name) (text ++ '}' :: rest) =
      [name.reverse ++ text].filter (!·.isEmpty) ++ scan none rest := by
  induction text generalizing name with
  | nil => cases name <;> simp [scan]
  | cons c text ih =>
    rw [List.mem_cons, not_or] at inside
    rw [List.cons_append, scan, if_neg (Ne.symm inside.1), ih inside.2]
    simp

theorem scan_none (inside : '}' ∉ piece) (rest : List Char) :
    scan none (piece ++ '}' :: rest) =
      (afterBrace? piece).toList.filter (!·.isEmpty) ++ scan none rest := by
  induction piece with
  | nil => rfl
  | cons c piece ih =>
    rw [List.mem_cons, not_or] at inside
    rw [List.cons_append, scan]
    by_cases opening : c = '{'
    · rw [if_pos opening, scan_some inside.2, opening, afterBrace?_brace]
      rfl
    · rw [if_neg opening, ih inside.2, afterBrace?_cons opening]

theorem cutNames_unclosed (unclosed : '}' ∉ text) : cutNames text = [] := by
  rw [cutNames, List.splitOn_eq_singleton unclosed]
  rfl

theorem cutNames_closed (inside : '}' ∉ piece) (rest : List Char) :
    cutNames (piece ++ '}' :: rest) =
      (afterBrace? piece).toList.filter (!·.isEmpty) ++ cutNames rest := by
  rw [cutNames, List.splitOn_append_cons_self_of_not_mem inside,
    List.dropLast_cons_of_ne_nil (List.splitOn_ne_nil _ _), List.filterMap_cons]
  cases afterBrace? piece with
  | none => rfl
  | some name => exact List.filter_append [name] _

theorem scan_eq_cutNames (text : List Char) : scan none text = cutNames text := by
  by_cases closed : '}' ∈ text
  · obtain ⟨piece, rest, whole, inside⟩ := List.eq_append_cons_of_mem closed
    have shorter : rest.length < text.length := by
      rw [whole, List.length_append, List.length_cons]
      omega
    rw [whole, scan_none inside, cutNames_closed inside, scan_eq_cutNames rest]
  · rw [scan_unclosed closed, cutNames_unclosed closed]
termination_by text.length

/-! ### Paths that were put together -/

/-- A name in braces. -/
def placeholder (name : String) : String := String.ofList ('{' :: (name.toList ++ ['}']))

/-- Literal texts with placeholders between them. A literal text may have closing braces, and a name
opening ones. -/
structure Template where
  start : String
  /-- Each name with the literal text that follows its placeholder. -/
  parts : List (String × String)
  literal : ∀ text ∈ start :: parts.map Prod.snd, '{' ∉ text.toList
  named : ∀ name ∈ parts.map Prod.fst, name ≠ "" ∧ '}' ∉ name.toList

namespace Template

def names (template : Template) : List String := template.parts.map Prod.fst

def written (template : Template) : String :=
  template.start ++ String.join (template.parts.map fun part => placeholder part.1 ++ part.2)

end Template

theorem scan_literal (literal : '{' ∉ text) (rest : List Char) :
    scan none (text ++ rest) = scan none rest := by
  induction text with
  | nil => rfl
  | cons c text ih =>
    rw [List.mem_cons, not_or] at literal
    rw [List.cons_append, scan, if_neg (Ne.symm literal.1), ih literal.2]

theorem scan_placeholder (filled : name ≠ []) (inside : '}' ∉ name) (rest : List Char) :
    scan none ('{' :: (name ++ '}' :: rest)) = name :: scan none rest := by
  rw [scan, if_pos rfl, scan_some inside]
  simp [filled]

theorem scan_parts {parts : List (String × String)}
    (literal : ∀ text ∈ parts.map Prod.snd, '{' ∉ text.toList)
    (named : ∀ name ∈ parts.map Prod.fst, name ≠ "" ∧ '}' ∉ name.toList) :
    scan none (parts.flatMap fun part => '{' :: (part.1.toList ++ '}' :: part.2.toList)) =
      parts.map (·.1.toList) := by
  induction parts with
  | nil => rfl
  | cons part parts ih =>
    obtain ⟨ownLiteral, laterLiteral⟩ := List.forall_mem_cons.mp literal
    obtain ⟨⟨filled, inside⟩, laterNamed⟩ := List.forall_mem_cons.mp named
    rw [List.flatMap_cons, List.cons_append, List.append_assoc, List.cons_append,
      scan_placeholder (by simpa using filled) inside, scan_literal ownLiteral,
      ih laterLiteral laterNamed, List.map_cons]

theorem Template.toList_written (template : Template) :
    template.written.toList = template.start.toList ++
      template.parts.flatMap fun part => '{' :: (part.1.toList ++ '}' :: part.2.toList) := by
  rw [written, String.toList_append, String.toList_join, List.flatMap_map]
  simp [placeholder]

theorem Template.scan_written (template : Template) :
    scan none template.written.toList = template.names.map String.toList := by
  obtain ⟨start, literal⟩ := List.forall_mem_cons.mp template.literal
  rw [toList_written, scan_literal start, scan_parts literal template.named, names, List.map_map]
  rfl

/-- The placeholders of every path, well formed or not, are the names found by cutting it at its
closing braces, without the response format. In a path that was put together they are the names that
were put in. -/
theorem placeholders_cut :
    (∀ path : String, placeholders path =
      ((cutNames path.toList).map String.ofList).filter (· != formatName)) ∧
    ∀ template : Template, placeholders template.written =
      template.names.filter (· != formatName) := by
  refine ⟨fun path => ?_, fun template => ?_⟩
  · rw [placeholders, scan_eq_cutNames]
  · rw [placeholders, template.scan_written, List.map_map]
    simp

/-- An opening brace in a name, a closing one in the literal text after it, and two placeholders with
nothing between them. -/
def crowded : Template where
  start := "/"
  parts := [("a\x7bb", "/\x7d"), ("format_type", ""), ("id", ".json")]
  literal := by decide
  named := by decide

theorem placeholders_cut_crowded :
    placeholders "/{a{b}/}{format_type}{id}.json" = ["a\x7bb", "id"] := by
  have path : crowded.written = "/{a{b}/}{format_type}{id}.json" := by decide +kernel
  rw [← path, placeholders_cut.2 crowded]
  decide +kernel

example : placeholders "{}/{{}/}" = ["\x7b"] := by decide +kernel

end DocTags.PathTemplate
