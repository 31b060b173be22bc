import DocTags.Text.Greedy
import Mathlib.Data.Prod.Lex

/-!
# Greedy readers pick the greatest reading

A reader that takes what it can and gives back only when what follows fails makes an ordered choice:
it stays with the first of its choices after which the rest succeeds, longer runs first. A reader
built from such choices returns, of all readings of a text, the one that is greatest when the
choices are compared in the order in which they are made.
-/

namespace DocTags.Text

variable {α ι κ ρ σ : Type} [LinearOrder ρ] [LinearOrder σ]

/-- Of all readings, `got` is the result of one whose rank is greatest. -/
inductive Picks (reading : ι → Prop) (rank : ι → ρ) (result : ι → α) : Option α → Prop where
  | nothing (impossible : ∀ i, ¬ reading i) : Picks reading rank result none
  | greatest {i : ι} (possible : reading i) (first : ∀ j, reading j → rank j ≤ rank i) :
      Picks reading rank result (some (result i))

theorem Picks.congr {reading other : ι → Prop} {rank : ι → ρ} {result : ι → α} {got : Option α}
    (picks : Picks reading rank result got) (same : ∀ i, reading i ↔ other i) :
    Picks other rank result got := by
  have equal : reading = other := funext fun i => propext (same i)
  rw [← equal]
  exact picks

/-- Of all choices, `got` is what follows the one of greatest key after which anything succeeds. -/
inductive Chosen (valid : κ → Prop) (key : κ → σ) (next : κ → Option α) : Option α → Prop where
  | nothing (failed : ∀ k, valid k → next k = none) : Chosen valid key next none
  | first {k : κ} {value : α} (isValid : valid k) (succeeded : next k = some value)
      (before : ∀ other, valid other → key k < key other → next other = none) :
      Chosen valid key next (some value)

/-- A choice comes before whatever is picked after it. -/
theorem Chosen.picks {valid : κ → Prop} {key : κ → σ} {next : κ → Option α} {got : Option α}
    {reading : ι → Prop} {rank : ι → ρ} {result : ι → α} (chosen : Chosen valid key next got)
    (choice : ι → κ)
    (distinct : ∀ k other, valid k → valid other → key k = key other → k = other)
    (later : ∀ k, Picks (fun i => reading i ∧ choice i = k) rank result (next k)) :
    Picks (fun i => reading i ∧ valid (choice i)) (fun i => toLex (key (choice i), rank i)) result
      got := by
  -- Where what follows a choice fails, no reading makes that choice.
  have refuted : ∀ k, next k = none → ∀ i, reading i → choice i ≠ k := by
    intro k failed i possible made
    have picks := later k
    rw [failed] at picks
    cases picks with
    | nothing impossible => exact impossible i ⟨possible, made⟩
  cases chosen with
  | nothing failed =>
    refine .nothing ?_
    rintro i ⟨possible, isValid⟩
    exact refuted (choice i) (failed _ isValid) i possible rfl
  | @first k value isValid succeeded before =>
    have picks := later k
    rw [succeeded] at picks
    cases picks with
    | @greatest i possible firstLater =>
      obtain ⟨isReading, rfl⟩ := possible
      refine .greatest ⟨isReading, isValid⟩ ?_
      rintro j ⟨otherReading, otherValid⟩
      rw [Prod.Lex.toLex_le_toLex]
      rcases lt_trichotomy (key (choice j)) (key (choice i)) with less | same | more
      · exact .inl less
      · have sameChoice := distinct _ _ otherValid isValid same
        exact .inr ⟨same, firstLater j ⟨otherReading, sameChoice⟩⟩
      · exact absurd rfl (refuted (choice j) (before _ otherValid more) j otherReading)

/-! ### Runs -/

structure Run (isMember : Char → Bool) (text run after : List Char) : Prop where
  text : text = run ++ after
  members : ∀ c ∈ run, isMember c = true

variable {isMember : Char → Bool} {text run after : List Char} {c : Char} {value : α}
  {next : List Char → List Char → Option α}

theorem run_iff {isMember : Char → Bool} {text run after : List Char} :
    Run isMember text run after ↔ (∀ c ∈ run, isMember c = true) ∧ run ++ after = text :=
  ⟨fun whole => ⟨whole.members, whole.text.symm⟩, fun ⟨members, text⟩ => ⟨text.symm, members⟩⟩

theorem Run.nil (isMember : Char → Bool) (text : List Char) : Run isMember text [] text :=
  ⟨rfl, by simp⟩

theorem Run.cons (member : isMember c = true) (tail : Run isMember text run after) :
    Run isMember (c :: text) (c :: run) after := by
  refine ⟨by rw [tail.text, List.cons_append], ?_⟩
  intro d inRun
  rcases List.mem_cons.mp inRun with rfl | later
  · exact member
  · exact tail.members d later

/-- A run from the start of a text is empty or begins with the first character. -/
theorem Run.cases_cons (whole : Run isMember (c :: text) run after) :
    (run = [] ∧ after = c :: text) ∨
      ∃ tail, run = c :: tail ∧ isMember c = true ∧ Run isMember text tail after := by
  obtain ⟨same, members⟩ := whole
  cases run with
  | nil => exact .inl ⟨rfl, same.symm⟩
  | cons d tail =>
    obtain ⟨rfl, rest⟩ := List.cons.inj same
    exact .inr ⟨tail, rfl, members c List.mem_cons_self,
      rest, fun d member => members d (List.mem_cons_of_mem _ member)⟩

theorem Run.unique {other rest : List Char} (first : Run isMember text run after)
    (second : Run isMember text other rest) (same : run.length = other.length) :
    run = other ∧ after = rest :=
  List.append_inj (first.text.symm.trans second.text) same

theorem takeMost_cons (isMember : Char → Bool) (c : Char) (text : List Char)
    (next : List Char → List Char → Option α) :
    takeMost isMember (c :: text) next =
      if isMember c then
        (takeMost isMember text fun run after => next (c :: run) after).or (next [] (c :: text))
      else next [] (c :: text) := by
  rw [takeMost, Option.orElse_eq_orElse, Option.orElse_eq_or]

theorem takeMost_none (failed : takeMost isMember text next = none)
    (whole : Run isMember text run after) : next run after = none := by
  induction text generalizing next run with
  | nil =>
    obtain ⟨rfl, rfl⟩ := List.append_eq_nil_iff.mp whole.text.symm
    exact failed
  | cons c text ih =>
    rw [takeMost_cons] at failed
    rcases whole.cases_cons with ⟨rfl, rfl⟩ | ⟨tail, rfl, member, shorter⟩
    · split at failed
      · exact (Option.or_eq_none_iff.mp failed).2
      · exact failed
    · rw [if_pos member] at failed
      have given := ih (Option.or_eq_none_iff.mp failed).1 shorter
      exact given

/-- The run that is taken is the longest after which what follows succeeds. -/
theorem takeMost_some (taken : takeMost isMember text next = some value) :
    ∃ run after, Run isMember text run after ∧ next run after = some value ∧
      ∀ longer rest, Run isMember text longer rest → run.length < longer.length →
        next longer rest = none := by
  induction text generalizing next with
  | nil =>
    refine ⟨[], [], .nil _ _, taken, ?_⟩
    intro longer rest whole more
    obtain ⟨rfl, rfl⟩ := List.append_eq_nil_iff.mp whole.text.symm
    exact absurd more (Nat.lt_irrefl 0)
  | cons c text ih =>
    rw [takeMost_cons] at taken
    split at taken
    · rename_i member
      rcases Option.or_eq_some_iff.mp taken with further | ⟨given, here⟩
      · obtain ⟨run, after, whole, succeeded, longest⟩ := ih further
        refine ⟨c :: run, after, whole.cons member, succeeded, ?_⟩
        intro longer rest other more
        rcases other.cases_cons with ⟨rfl, rfl⟩ | ⟨tail, rfl, _, shorter⟩
        · exact absurd more (Nat.not_lt_zero _)
        · exact longest tail rest shorter (Nat.lt_of_succ_lt_succ more)
      · -- Everything was given back, so no longer run goes with what follows.
        refine ⟨[], c :: text, .nil _ _, here, ?_⟩
        intro longer rest other more
        rcases other.cases_cons with ⟨rfl, rfl⟩ | ⟨tail, rfl, _, shorter⟩
        · exact absurd more (Nat.not_lt_zero _)
        · have failed := takeMost_none given shorter
          exact failed
    · rename_i stranger
      refine ⟨[], c :: text, .nil _ _, taken, ?_⟩
      intro longer rest other more
      rcases other.cases_cons with ⟨rfl, rfl⟩ | ⟨tail, rfl, member, _⟩
      · exact absurd more (Nat.not_lt_zero _)
      · exact absurd member stranger

/-- `takeMost` chooses among the runs at the start of a text, the longest first. -/
theorem takeMost_chosen (isMember : Char → Bool) (text : List Char)
    (next : List Char → List Char → Option α) :
    Chosen (fun run : List Char × List Char => Run isMember text run.1 run.2)
      (fun run => run.1.length) (fun run => next run.1 run.2) (takeMost isMember text next) := by
  cases got : takeMost isMember text next with
  | none => exact .nothing (fun _ whole => takeMost_none got whole)
  | some value =>
    obtain ⟨run, after, whole, succeeded, longest⟩ := takeMost_some got
    exact .first (k := (run, after)) whole succeeded (fun other => longest other.1 other.2)

/-- Taking a run puts its length in front of the ranks of what follows. -/
theorem takeMost_picks (part tail : ι → List Char) {reading : ι → Prop} {rank : ι → ρ}
    {result : ι → α}
    (later : ∀ run after,
      Picks (fun i => reading i ∧ part i = run ∧ tail i = after) rank result (next run after)) :
    Picks (fun i => reading i ∧ Run isMember text (part i) (tail i))
      (fun i => toLex ((part i).length, rank i)) result (takeMost isMember text next) := by
  refine (takeMost_chosen isMember text next).picks (fun i => (part i, tail i)) ?_ ?_
  · intro first second firstRun secondRun same
    exact Prod.ext_iff.mpr (firstRun.unique secondRun same)
  · rintro ⟨run, after⟩
    exact (later run after).congr fun i => and_congr_right fun _ => Prod.mk_inj.symm

/-- Where the text goes on with another character, a run that leads to success is kept whole. -/
theorem takeMost_of_success (members : ∀ c ∈ run, isMember c = true)
    (ends : ∀ c ∈ after.head?, isMember c = false) (succeeded : next run after = some value) :
    takeMost isMember (run ++ after) next = some value := by
  induction run generalizing next with
  | nil =>
    cases after with
    | nil => exact succeeded
    | cons c after =>
      have stranger : isMember c = false := ends c rfl
      rw [List.nil_append, takeMost_cons, stranger]
      exact succeeded
  | cons c run ih =>
    obtain ⟨member, others⟩ := List.forall_mem_cons.mp members
    have taken : takeMost isMember (run ++ after) (fun run after => next (c :: run) after) =
        some value := ih others succeeded
    rw [List.cons_append, takeMost_cons, if_pos member, taken, Option.some_or]

/-! ### Markers -/

theorem dropStart?_eq_some {start text after : List Char} :
    dropStart? start text = some after ↔ text = start ++ after := by
  induction start generalizing text with
  | nil => simp [dropStart?]
  | cons c start ih =>
    cases text with
    | nil => simp [dropStart?]
    | cons d text =>
      rw [dropStart?, List.cons_append, List.cons.injEq]
      by_cases same : c = d
      · simp [same, ih]
      · simp [same, Ne.symm same]

def Marked (marker text : List Char) (present : Bool) (after : List Char) : Prop :=
  text = (if present then marker else []) ++ after

/-- `takeIfPresent` chooses between going on after the marker and without it, in this order. -/
theorem takeIfPresent_chosen (marker text : List Char) (next : Bool → List Char → Option α) :
    Chosen (fun mark : Bool × List Char => Marked marker text mark.1 mark.2)
      (fun mark => mark.1) (fun mark => next mark.1 mark.2) (takeIfPresent marker text next) := by
  have without : ∀ rest, Marked marker text false rest → rest = text :=
    fun rest marked => marked.symm
  -- Once the marker is not taken, only readings that take it come before.
  have last : ∀ got, (∀ rest, Marked marker text true rest → next true rest = none) →
      next false text = got →
      Chosen (fun mark : Bool × List Char => Marked marker text mark.1 mark.2)
        (fun mark => mark.1) (fun mark => next mark.1 mark.2) got := by
    intro got failed here
    cases got with
    | none =>
      refine .nothing ?_
      rintro ⟨_ | _, rest⟩ marked
      · rw [without rest marked]
        exact here
      · exact failed rest marked
    | some value =>
      refine .first (k := (false, text)) rfl here ?_
      rintro ⟨_ | _, rest⟩ marked more
      · exact absurd more (lt_irrefl false)
      · exact failed rest marked
  unfold takeIfPresent
  split
  · rename_i after dropped
    have start := dropStart?_eq_some.mp dropped
    have only : ∀ rest, Marked marker text true rest → rest = after :=
      fun rest marked => List.append_cancel_left (marked.symm.trans start)
    rw [Option.orElse_eq_orElse, Option.orElse_eq_or]
    cases taken : next true after with
    | some value =>
      refine .first (k := (true, after)) start taken ?_
      rintro ⟨_ | _, rest⟩ _ more
      · exact absurd more (show ¬ true < false by decide)
      · exact absurd more (lt_irrefl true)
    | none =>
      refine last _ ?_ rfl
      intro rest marked
      rw [only rest marked]
      exact taken
  · rename_i missing
    refine last _ ?_ rfl
    intro rest marked
    have dropped := dropStart?_eq_some.mpr marked
    rw [if_pos rfl, missing] at dropped
    cases dropped

theorem takeIfPresent_of_success {marker : List Char} {next : Bool → List Char → Option α}
    (succeeded : next true after = some value) :
    takeIfPresent marker (marker ++ after) next = some value := by
  rw [takeIfPresent, dropStart?_eq_some.mpr rfl]
  simp only [succeeded, Option.orElse_eq_orElse, Option.orElse_eq_or, Option.some_or]

theorem takeIfPresent_of_missing {marker : List Char} (missing : ¬ marker <+: text)
    (next : Bool → List Char → Option α) : takeIfPresent marker text next = next false text := by
  unfold takeIfPresent
  split
  · rename_i after dropped
    exact absurd ⟨after, (dropStart?_eq_some.mp dropped).symm⟩ missing
  · rfl

/-- Taking a marker if it is there prefers readings with it. -/
theorem takeIfPresent_picks {marker : List Char} {next : Bool → List Char → Option α}
    (part : ι → Bool) (tail : ι → List Char) {reading : ι → Prop} {rank : ι → ρ} {result : ι → α}
    (later : ∀ present after,
      Picks (fun i => reading i ∧ part i = present ∧ tail i = after) rank result
        (next present after)) :
    Picks (fun i => reading i ∧ Marked marker text (part i) (tail i))
      (fun i => toLex (part i, rank i)) result (takeIfPresent marker text next) := by
  refine (takeIfPresent_chosen marker text next).picks (fun i => (part i, tail i)) ?_ ?_
  · rintro ⟨first, after⟩ ⟨second, rest⟩ firstMarked secondMarked same
    obtain rfl : first = second := same
    have sameRest : after = rest := List.append_cancel_left (firstMarked.symm.trans secondMarked)
    rw [sameRest]
  · rintro ⟨present, after⟩
    exact (later present after).congr fun i => and_congr_right fun _ => Prod.mk_inj.symm

end DocTags.Text
