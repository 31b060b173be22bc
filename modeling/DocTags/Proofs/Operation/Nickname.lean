import DocTags.Operation.Nickname
import Mathlib.Data.List.SplitBy

/-!
# Slugs

A text is made of runs of kept characters with gaps between them. Its slug has the same runs and a
hyphen for every gap. So it is fixed by the runs together with whether a gap opens the text and
whether one closes it, and slugging it again changes nothing.
-/

namespace DocTags.Operation

/-- The longest runs of kept characters in a text. -/
def keptRuns (text : List Char) : List (List Char) :=
  (text.splitBy fun a b => isKept a == isKept b).filter (·.all isKept)

/-- The text begins with a character that is not kept. -/
def beginsApart (text : List Char) : Bool := text.head?.any (!isKept ·)

def endsApart (text : List Char) : Bool := text.getLast?.any (!isKept ·)

variable {kept : Bool} {text rest run gap before after : List Char}

theorem isKept_hyphen : isKept '-' = false := by decide

theorem not_mem_hyphen (all : ∀ c ∈ run, isKept c = true) : '-' ∉ run := by
  intro member
  have hyphen := all '-' member
  rw [isKept_hyphen] at hyphen
  cases hyphen

/-! ### Runs and gaps -/

theorem splitBy_alike (filled : run ≠ []) (alike : ∀ c ∈ run, isKept c = kept) :
    (run.splitBy fun a b => isKept a == isKept b) = [run] := by
  apply List.splitBy_of_isChain filled
  apply List.Pairwise.isChain
  apply List.pairwise_of_forall_mem_list
  intro a inA b inB
  rw [alike a inA, alike b inB, beq_self_eq_true]

theorem keptRuns_kept (all : ∀ c ∈ run, isKept c = true) :
    keptRuns run = [run].filter (!·.isEmpty) := by
  by_cases filled : run = []
  · rw [filled]
    rfl
  · have allKept : run.all isKept = true := List.all_eq_true.mpr all
    rw [keptRuns, splitBy_alike filled all]
    simp [allKept, filled]

theorem keptRuns_gap (none : ∀ c ∈ gap, isKept c = false) : keptRuns gap = [] := by
  cases gap with
  | nil => rfl
  | cons c gap =>
    rw [keptRuns, splitBy_alike (List.cons_ne_nil c gap) none]
    simp [none c List.mem_cons_self]

theorem keptRuns_append
    (apart : ∀ a ∈ before.getLast?, ∀ b ∈ after.head?, (isKept a == isKept b) = false) :
    keptRuns (before ++ after) = keptRuns before ++ keptRuns after := by
  rw [keptRuns, List.splitBy_append apart, List.filter_append, keptRuns, keptRuns]

/-- A run of kept characters and a gap stand in front of a text that does not go on with the gap. -/
structure Leads (run gap rest : List Char) : Prop where
  run : ∀ c ∈ run, isKept c = true
  filled : gap ≠ []
  gap : ∀ c ∈ gap, isKept c = false
  rest : beginsApart rest = false

/-- A text is runs and gaps in turn. Only its first run can be empty, or the last, after a gap. -/
inductive Alternates : List Char → Prop where
  | single {run : List Char} (kept : ∀ c ∈ run, isKept c = true) : Alternates run
  | leading {run gap rest : List Char} (leads : Leads run gap rest) (later : Alternates rest) :
      Alternates (run ++ (gap ++ rest))

theorem beginsApart_kept (kept : ∀ c ∈ run, isKept c = true) : beginsApart run = false := by
  cases run with
  | nil => rfl
  | cons c run => simp [beginsApart, kept c List.mem_cons_self]

theorem isKept_of_head (begun : beginsApart text = false) : ∀ c ∈ text.head?, isKept c = true := by
  intro c first
  simpa [beginsApart, Option.mem_def.mp first] using begun

theorem endsApart_kept (kept : ∀ c ∈ run, isKept c = true) : endsApart run = false := by
  cases last : run.getLast? with
  | none => rw [endsApart, last, Option.any_none]
  | some c => simp [endsApart, last, kept c (List.mem_of_mem_getLast? last)]

theorem Leads.begins (leads : Leads run gap rest) :
    beginsApart (run ++ (gap ++ rest)) = run.isEmpty := by
  cases run with
  | nil =>
    obtain ⟨c, gap, rfl⟩ := List.exists_cons_of_ne_nil leads.filled
    simp [beginsApart, leads.gap c List.mem_cons_self]
  | cons c run => simp [beginsApart, leads.run c List.mem_cons_self]

theorem Leads.ends (leads : Leads run gap rest) :
    endsApart (run ++ (gap ++ rest)) = (rest.isEmpty || endsApart rest) := by
  cases rest with
  | nil =>
    have last : gap.getLast leads.filled ∈ gap := List.getLast_mem leads.filled
    rw [List.append_nil, endsApart, List.getLast?_append_of_ne_nil _ leads.filled,
      List.getLast?_eq_some_getLast leads.filled]
    simp [leads.gap _ last]
  | cons c rest =>
    rw [endsApart, ← List.append_assoc,
      List.getLast?_append_of_ne_nil _ (List.cons_ne_nil c rest)]
    rfl

theorem alternates (text : List Char) : Alternates text := by
  -- From right to left, a character joins what begins there if it is of the same kind.
  induction text with
  | nil => exact .single nofun
  | cons c text ih =>
    cases own : isKept c with
    | true =>
      cases ih with
      | single kept => exact .single (List.forall_mem_cons.mpr ⟨own, kept⟩)
      | @leading run _ _ leads later =>
        have longer : ∀ d ∈ c :: run, isKept d = true := List.forall_mem_cons.mpr ⟨own, leads.run⟩
        exact .leading ⟨longer, leads.filled, leads.gap, leads.rest⟩ later
    | false =>
      by_cases begun : beginsApart text = false
      · have leads : Leads [] [c] text :=
          ⟨nofun, List.cons_ne_nil c [], by simpa using own, begun⟩
        exact .leading leads ih
      · cases ih with
        | single kept => exact absurd (beginsApart_kept kept) begun
        | @leading run gap rest leads later =>
          have empty : run = [] := by simpa [leads.begins] using begun
          subst empty
          have longer : Leads [] (c :: gap) rest :=
            ⟨nofun, List.cons_ne_nil c gap, List.forall_mem_cons.mpr ⟨own, leads.gap⟩, leads.rest⟩
          exact .leading longer later

theorem Leads.runs (leads : Leads run gap rest) :
    keptRuns (run ++ (gap ++ rest)) = [run].filter (!·.isEmpty) ++ keptRuns rest := by
  rw [keptRuns_append, keptRuns_append, keptRuns_kept leads.run, keptRuns_gap leads.gap,
    List.nil_append]
  · intro a last b first
    rw [leads.gap a (List.mem_of_mem_getLast? last), isKept_of_head leads.rest b first]
    rfl
  · intro a last b first
    rw [List.head?_append_of_ne_nil _ leads.filled] at first
    rw [leads.run a (List.mem_of_mem_getLast? last), leads.gap b (List.mem_of_mem_head? first)]
    rfl

/-! ### The slug along the runs -/

theorem slugFrom_run (kept : ∀ c ∈ run, isKept c = true) (text : List Char) :
    slugFrom false (run ++ text) = run ++ slugFrom false text := by
  induction run with
  | nil => rfl
  | cons c run ih =>
    obtain ⟨own, later⟩ := List.forall_mem_cons.mp kept
    rw [List.cons_append, slugFrom, if_pos own, ih later, List.cons_append]

theorem slugFrom_gap (apart : ∀ c ∈ gap, isKept c = false) (text : List Char) :
    slugFrom true (gap ++ text) = slugFrom true text := by
  induction gap with
  | nil => rfl
  | cons c gap ih =>
    obtain ⟨own, later⟩ := List.forall_mem_cons.mp apart
    rw [List.cons_append, slugFrom, if_neg (by simp [own]), if_pos rfl, ih later]

theorem slugFrom_begun (begun : beginsApart text = false) : slugFrom true text = slug text := by
  cases text with
  | nil => rfl
  | cons c text =>
    have own : isKept c = true := isKept_of_head begun c rfl
    rw [slug, slugFrom, slugFrom, if_pos own, if_pos own]

theorem slug_kept (kept : ∀ c ∈ run, isKept c = true) : slug run = run := by
  have whole := slugFrom_run kept []
  rwa [List.append_nil, slugFrom, List.append_nil] at whole

theorem Leads.slug_eq (leads : Leads run gap rest) :
    slug (run ++ (gap ++ rest)) = run ++ '-' :: slug rest := by
  obtain ⟨c, gap, rfl⟩ := List.exists_cons_of_ne_nil leads.filled
  obtain ⟨own, later⟩ := List.forall_mem_cons.mp leads.gap
  rw [slug, slugFrom_run leads.run, List.cons_append, slugFrom, if_neg (by simp [own]),
    if_neg Bool.false_ne_true, slugFrom_gap later, slugFrom_begun leads.rest]

theorem isEmpty_slug (text : List Char) : (slug text).isEmpty = text.isEmpty := by
  cases text with
  | nil => rfl
  | cons c text => cases own : isKept c <;> simp [slug, slugFrom, own]

theorem beginsApart_slug (text : List Char) : beginsApart (slug text) = beginsApart text := by
  cases text with
  | nil => rfl
  | cons c text =>
    cases own : isKept c <;> simp [slug, slugFrom, own, beginsApart, isKept_hyphen]

/-- A slug begins like the text, so its runs and gaps stand in the same places. -/
theorem Leads.slugged (leads : Leads run gap rest) : Leads run ['-'] (slug rest) :=
  ⟨leads.run, List.cons_ne_nil _ _, by simp [isKept_hyphen],
    (beginsApart_slug rest).trans leads.rest⟩

theorem endsApart_slug (text : List Char) : endsApart (slug text) = endsApart text := by
  induction alternates text with
  | single kept => rw [slug_kept kept]
  | leading leads _ ih =>
    rw [leads.slug_eq, ← List.singleton_append, leads.slugged.ends, leads.ends, ih, isEmpty_slug]

theorem slug_slug (text : List Char) : slug (slug text) = slug text := by
  induction alternates text with
  | single kept => rw [slug_kept kept, slug_kept kept]
  | leading leads _ ih =>
    have again := leads.slugged.slug_eq
    rw [List.singleton_append, ih] at again
    rw [leads.slug_eq, again]

theorem splitOn_slug (text : List Char) :
    ((slug text).splitOn '-').filter (!·.isEmpty) = keptRuns text := by
  induction alternates text with
  | single kept =>
    rw [slug_kept kept, List.splitOn_eq_singleton (not_mem_hyphen kept), keptRuns_kept kept]
  | @leading run gap rest leads _ ih =>
    rw [leads.slug_eq, List.splitOn_append_cons_self_of_not_mem (not_mem_hyphen leads.run),
      ← List.singleton_append, List.filter_append, ih, leads.runs]

theorem isKept_or_hyphen (text : List Char) : ∀ c ∈ slug text, isKept c = true ∨ c = '-' := by
  induction alternates text with
  | single kept =>
    rw [slug_kept kept]
    exact fun c member => .inl (kept c member)
  | leading leads _ ih =>
    rw [leads.slug_eq, List.forall_mem_append, List.forall_mem_cons]
    exact ⟨fun c member => .inl (leads.run c member), .inr rfl, ih⟩

theorem hyphens_after_run (kept : ∀ c ∈ run, isKept c = true)
    (inside : ['-', '-'] <:+: run ++ text) : ['-', '-'] <:+: text := by
  induction run with
  | nil => exact inside
  | cons c run ih =>
    obtain ⟨own, later⟩ := List.forall_mem_cons.mp kept
    rcases List.infix_cons_iff.mp inside with begins | behind
    · rw [← (List.cons_prefix_cons.mp begins).1, isKept_hyphen] at own
      cases own
    · exact ih later behind

theorem not_hyphens_slug (text : List Char) : ¬ ['-', '-'] <:+: slug text := by
  induction alternates text with
  | single kept =>
    rw [slug_kept kept]
    exact fun inside => not_mem_hyphen kept (inside.subset List.mem_cons_self)
  | leading leads _ ih =>
    intro inside
    rw [leads.slug_eq] at inside
    rcases List.infix_cons_iff.mp (hyphens_after_run leads.run inside) with begins | behind
    · -- The second hyphen would be where the slug of the rest begins.
      obtain ⟨others, whole⟩ := (List.cons_prefix_cons.mp begins).2
      have kept := isKept_of_head leads.slugged.rest '-' (by rw [← whole]; rfl)
      rw [isKept_hyphen] at kept
      cases kept
    · exact ih behind

/-! ### What a slug is made of -/

/-- An empty piece at an end of a text that begins or ends apart. -/
def edge (apart : Bool) : List (List Char) := if apart then [[]] else []

/-- What stands between the hyphens of a slug. -/
def slugPieces (text : List Char) : List (List Char) :=
  edge (beginsApart text) ++ (keptRuns text ++ edge (endsApart text))

theorem Leads.slugPieces_eq (leads : Leads run gap rest) :
    slugPieces (run ++ (gap ++ rest)) =
      run :: if rest.isEmpty then [[]] else slugPieces rest := by
  have front : edge run.isEmpty ++ [run].filter (!·.isEmpty) = [run] := by
    cases run <;> rfl
  rw [slugPieces, leads.begins, leads.runs, leads.ends, ← List.append_assoc, ← List.append_assoc,
    front, List.append_assoc]
  cases rest with
  | nil => rfl
  | cons c rest => simp [slugPieces, edge, leads.rest]

theorem slug_eq_intercalate (text : List Char) :
    slug text = ['-'].intercalate (slugPieces text) := by
  induction alternates text with
  | @single run kept =>
    rw [slug_kept kept, slugPieces, beginsApart_kept kept, endsApart_kept kept, keptRuns_kept kept]
    cases run <;> simp [edge]
  | @leading run gap rest leads _ ih =>
    rw [leads.slug_eq, leads.slugPieces_eq]
    cases rest with
    | nil =>
      rw [List.isEmpty_nil, if_pos rfl, List.intercalate_cons_cons, List.intercalate_singleton,
        List.append_nil]
      rfl
    | cons c rest =>
      -- What is left has a piece, or its slug would be empty.
      have filled : slugPieces (c :: rest) ≠ [] := by
        intro empty
        have whole := isEmpty_slug (c :: rest)
        rw [ih, empty] at whole
        cases whole
      obtain ⟨piece, others, pieces⟩ := List.exists_cons_of_ne_nil filled
      rw [ih, List.isEmpty_cons, if_neg Bool.false_ne_true, pieces, List.intercalate_cons_cons,
        List.append_assoc]
      rfl

theorem slug_eq_iff (text other : List Char) :
    slug text = slug other ↔
      keptRuns text = keptRuns other ∧ beginsApart text = beginsApart other ∧
        endsApart text = endsApart other := by
  constructor
  · intro same
    rw [← splitOn_slug text, ← beginsApart_slug text, ← endsApart_slug text, same, splitOn_slug,
      beginsApart_slug, endsApart_slug]
    exact ⟨rfl, rfl, rfl⟩
  · rintro ⟨runs, begins, ends⟩
    rw [slug_eq_intercalate, slug_eq_intercalate, slugPieces, runs, begins, ends, slugPieces]

/-! ### Nicknames -/

theorem eq_hyphen_iff {outer : Option Char} (member : ∀ c ∈ outer, c ∈ slug text) :
    outer = some '-' ↔ outer.any (!isKept ·) = true := by
  cases outer with
  | none => simp
  | some c =>
    rcases isKept_or_hyphen text c (member c rfl) with kept | rfl
    · have other : c ≠ '-' := by
        rintro rfl
        rw [isKept_hyphen] at kept
        cases kept
      simp [kept, other]
    · simp [isKept_hyphen]

theorem head?_slug (text : List Char) :
    (slug text).head? = some '-' ↔ beginsApart text = true := by
  rw [← beginsApart_slug, beginsApart]
  exact eq_hyphen_iff fun c => List.mem_of_mem_head?

theorem getLast?_slug (text : List Char) :
    (slug text).getLast? = some '-' ↔ endsApart text = true := by
  rw [← endsApart_slug, endsApart]
  exact eq_hyphen_iff fun c => List.mem_of_mem_getLast?

theorem characters_slug (text : List Char) :
    ∀ c ∈ slug text, c.isAlpha = true ∨ Text.isDecimalDigit c = true ∨ c = ':' ∨ c = '-' := by
  intro c member
  rcases isKept_or_hyphen text c member with kept | hyphen
  · simp only [isKept, Bool.or_eq_true, beq_iff_eq] at kept
    rcases kept with (letter | colon) | digit
    · exact .inl letter
    · exact .inr (.inr (.inl colon))
    · exact .inr (.inl digit)
  · exact .inr (.inr (.inr hyphen))

/-- What the slug of a text is made of. -/
structure Slugged (text slug : List Char) : Prop where
  characters : ∀ c ∈ slug, c.isAlpha = true ∨ Text.isDecimalDigit c = true ∨ c = ':' ∨ c = '-'
  single : ¬ ['-', '-'] <:+: slug
  begins : slug.head? = some '-' ↔ beginsApart text = true
  ends : slug.getLast? = some '-' ↔ endsApart text = true
  runs : (slug.splitOn '-').filter (!·.isEmpty) = keptRuns text

/-- The nickname is the slug of the path without its first character, then the method in lower case.
A slug stays as it is when it is slugged again, and two paths have one slug exactly if they have the
same runs and a gap at the same ends. -/
theorem nickname_slugged (operation : Operation) (path method : String)
    (located : operation.path = some path) (given : operation.httpMethod = some method) :
    operation.nickname =
      .ok (String.ofList (slug (path.toList.drop 1)) ++ Text.lowered method) ∧
    Slugged (path.toList.drop 1) (slug (path.toList.drop 1)) ∧
    slug (slug (path.toList.drop 1)) = slug (path.toList.drop 1) ∧
    ∀ other : String,
      slug (path.toList.drop 1) = slug (other.toList.drop 1) ↔
        keptRuns (path.toList.drop 1) = keptRuns (other.toList.drop 1) ∧
        beginsApart (path.toList.drop 1) = beginsApart (other.toList.drop 1) ∧
        endsApart (path.toList.drop 1) = endsApart (other.toList.drop 1) := by
  have endpoint : operation.endpoint = .ok (path, method) := by
    rw [Operation.endpoint, located, given]
  refine ⟨?_, ?_, slug_slug _, fun other => slug_eq_iff _ _⟩
  · rw [nickname, endpoint, Text.lowered, ← String.ofList_append]
  · exact ⟨characters_slug _, not_hyphens_slug _, head?_slug _, getLast?_slug _, splitOn_slug _⟩

/-- The first slash is left out and the second is a gap; the last character is a digit, though not
an ASCII one. -/
def indexed : Operation :=
  { ofApi ⟨none, none⟩ with path := some "//a_b/{id}:٣", httpMethod := some "PuT" }

theorem nickname_slugged_indexed :
    indexed.path = some "//a_b/{id}:٣" ∧ indexed.httpMethod = some "PuT" ∧
    indexed.nickname = .ok "-a-b-id-:٣put" ∧
    slug ("//a_b/{id}:٣".toList.drop 1) = slug ("/--a b__id?:٣".toList.drop 1) := by
  obtain ⟨name, _, _, same⟩ := nickname_slugged indexed "//a_b/{id}:٣" "PuT" rfl rfl
  refine ⟨rfl, rfl, name.trans ?_, (same "/--a b__id?:٣").mpr ?_⟩
  · decide +kernel
  · decide +kernel

end DocTags.Operation
