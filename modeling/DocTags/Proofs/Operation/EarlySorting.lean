import DocTags.Operation.Action
import DocTags.Proofs.Operation.ParameterOrder
import DocTags.Proofs.Session

/-!
# Sorting parameters early

Parameters may be sorted at any time, and nothing comes of it once they are sorted in the end. Two
operations are `Shuffled` if they differ in the order of their parameters only, and parameters of
one name stand in the same order in both. Sorting leads from an operation to a shuffled one, every
other action treats shuffled operations alike, since it adds parameters at the end and never looks
at those that are there, and a last sorting makes them equal.
-/

namespace DocTags

def Reply.failure? {σ : Type} (reply : Reply σ) : Option Failure :=
  match reply.result with
  | .error failure => some failure
  | .ok _ => none

theorem Reply.failure?_ofOutcome {σ : Type} (outcome : Outcome σ) :
    (Reply.ofOutcome outcome).failure? = outcome.failure := by
  unfold Reply.ofOutcome Reply.failure?
  cases outcome.failure <;> rfl

/-- Whether an action asks for settings can be seen from its failure. -/
theorem Session.asks_congr {σ : Type} {first second : Settings.Loaded → Reply σ}
    (same : ∀ load, (first load).failure? = (second load).failure?) :
    Session.asks first = Session.asks second := by
  have decided : ∀ perform : Settings.Loaded → Reply σ, Session.asks perform =
      ((perform (.error (.invalid []))).failure?.map Failure.isSettings).getD false := by
    intro perform
    unfold Session.asks Reply.failure?
    cases (perform (.error (.invalid []))).result <;> rfl
  rw [decided, decided, same]

namespace Operation

/-- Operations that differ in the order of their parameters only, and in that only between
parameters of different names. -/
structure Shuffled (operation other : Operation) : Prop where
  others : other = { operation with parameters := other.parameters }
  named : ∀ name, operation.parameters.filter (·.name == name) =
    other.parameters.filter (·.name == name)

/-- The same steps with some sortings left out. -/
inductive Thinned : List (SessionStep Action) → List (SessionStep Action) → Prop where
  | nil : Thinned [] []
  | keep (step : SessionStep Action) {steps fewer : List (SessionStep Action)}
      (rest : Thinned steps fewer) : Thinned (step :: steps) (step :: fewer)
  | skip {steps fewer : List (SessionStep Action)} (rest : Thinned steps fewer) :
      Thinned (.act .sort :: steps) fewer

/-- Work that adds parameters at the end and otherwise does not know what they are. -/
def Adds (work : Operation → Outcome Operation) : Prop :=
  ∀ operation, ∃ added, ∀ parameters, work { operation with parameters := parameters } =
    { work operation with
      state := { (work operation).state with parameters := parameters ++ added } }

variable {operation other : Operation} {load : Settings.Loaded} {tag : Tag}
  {steps fewer : List (SessionStep Action)}

/-! ### Sorting -/

theorem Shuffled.refl (operation : Operation) : Shuffled operation operation :=
  ⟨rfl, fun _ => rfl⟩

theorem Shuffled.sorted (shuffled : Shuffled operation other) :
    Shuffled operation.sortParameters other :=
  ⟨shuffled.others, fun name => (Parameter.filter_mergeSort _ name).trans (shuffled.named name)⟩

theorem Shuffled.sortParameters_eq (shuffled : Shuffled operation other) :
    operation.sortParameters = other.sortParameters := by
  rw [sortParameters, mergeSort_eq_of_filter_eq shuffled.named, shuffled.others]
  rfl

/-! ### One action -/

theorem adds_of_untouched {work : Operation → Outcome Operation}
    (untouched : ∀ operation parameters, work { operation with parameters := parameters } =
      { work operation with state := { (work operation).state with parameters := parameters } }) :
    Adds work := by
  refine fun operation => ⟨[], fun parameters => ?_⟩
  rw [List.append_nil]
  exact untouched operation parameters

theorem adds_orStop {α : Type} (value : Except Failure α) {next : Operation → α → Operation}
    (adds : ∀ result, Adds fun operation => .done (next operation result)) :
    Adds fun operation => operation.orStop value (next operation) := by
  cases value with
  | error failure => exact adds_of_untouched fun _ _ => rfl
  | ok result => exact adds result

theorem adds_addParameters (parameters : List Parameter) :
    Adds fun operation => .done (operation.addParameters parameters) :=
  fun _ => ⟨parameters, fun _ => rfl⟩

theorem adds_applyPath (load : Settings.Loaded) (tag : Tag) :
    Adds fun operation => operation.applyPath load tag := by
  unfold applyPath
  cases tag.types with
  | nil => exact adds_of_untouched fun _ _ => rfl
  | cons method others =>
    cases placeholderParameters load (PathTemplate.placeholders tag.text) with
    | error failure => exact adds_of_untouched fun _ _ => rfl
    | ok added => exact fun _ => ⟨added, fun _ => rfl⟩

theorem adds_applyTag (load : Settings.Loaded) (tag : Tag) :
    Adds fun operation => operation.applyTag load tag := by
  unfold applyTag
  cases tag.role with
  | path => exact adds_applyPath load tag
  | parameter | shorthand => exact adds_orStop _ fun parameter => adds_addParameters [parameter]
  | responseType | errorMessage =>
    exact adds_orStop _ fun _ => adds_of_untouched fun _ _ => rfl
  | notes => cases load <;> exact adds_of_untouched fun _ _ => rfl
  | summary | unrecognized => exact adds_of_untouched fun _ _ => rfl

theorem adds_appendFormat (load : Settings.Loaded) :
    Adds fun operation => operation.appendFormat load :=
  adds_orStop _ fun parameter => adds_addParameters [parameter]

theorem Shuffled.work {work : Operation → Outcome Operation} (shuffled : Shuffled operation other)
    (adds : Adds work) :
    Shuffled (work operation).state (work other).state ∧
      (work operation).failure = (work other).failure := by
  obtain ⟨added, same⟩ := adds operation
  have own : (work operation).state.parameters = operation.parameters ++ added :=
    congrArg (fun outcome => outcome.state.parameters) (same operation.parameters)
  have others := same other.parameters
  rw [← shuffled.others] at others
  refine ⟨⟨?_, fun name => ?_⟩, ?_⟩
  · rw [others]
  · rw [others, own, List.filter_append, List.filter_append, shuffled.named]
  · rw [others]

theorem failure?_legacy (load : Settings.Loaded) (operation : Operation)
    (parameters : List Parameter) :
    (operation.perform load .legacy).failure? =
      ({ operation with parameters := parameters }.perform load .legacy).failure? := by
  have nickname : { operation with parameters := parameters }.nickname = operation.nickname := rfl
  unfold perform legacy
  rw [nickname]
  cases operation.nickname <;> cases load <;> rfl

theorem failure?_v2 (load : Settings.Loaded) (operation : Operation)
    (parameters : List Parameter) :
    (operation.perform load .v2).failure? =
      ({ operation with parameters := parameters }.perform load .v2).failure? := by
  have endpoint : { operation with parameters := parameters }.endpoint = operation.endpoint := rfl
  have responses : { operation with parameters := parameters }.responses load =
    operation.responses load := rfl
  unfold perform v2
  rw [endpoint, responses]
  cases operation.endpoint with
  | error failure => rfl
  | ok located => cases operation.responses load <;> rfl

theorem Shuffled.perform (shuffled : Shuffled operation other) (load : Settings.Loaded)
    (action : Action) :
    Shuffled (operation.perform load action).state (other.perform load action).state ∧
      (operation.perform load action).failure? = (other.perform load action).failure? := by
  have ofWork : ∀ {work : Operation → Outcome Operation}, Adds work →
      Shuffled (Reply.ofOutcome (work operation)).state (Reply.ofOutcome (work other)).state ∧
        (Reply.ofOutcome (work operation)).failure? = (Reply.ofOutcome (work other)).failure? := by
    intro work adds
    rw [Reply.failure?_ofOutcome, Reply.failure?_ofOutcome]
    exact shuffled.work adds
  cases action with
  | parseTag tag =>
    cases tag with
    | error failure => exact ⟨shuffled, rfl⟩
    | ok tag => exact ofWork (adds_applyTag load tag)
  | appendFormat => exact ofWork (adds_appendFormat load)
  | sort =>
    refine ⟨?_, rfl⟩
    have same : (operation.perform load .sort).state = (other.perform load .sort).state :=
      shuffled.sortParameters_eq
    rw [same]
    exact .refl _
  -- Questions leave the operation as it is, and none of them fails for the order of parameters.
  | nickname | summary =>
    refine ⟨shuffled, ?_⟩
    rw [shuffled.others]
    rfl
  | legacy =>
    refine ⟨shuffled, ?_⟩
    rw [shuffled.others]
    exact failure?_legacy load operation other.parameters
  | v2 =>
    refine ⟨shuffled, ?_⟩
    rw [shuffled.others]
    exact failure?_v2 load operation other.parameters

/-! ### Sessions -/

theorem run_of_shuffled (thinned : Thinned steps fewer) (session : Session)
    (shuffled : Shuffled operation other) :
    (session.states Operation.perform operation (steps ++ [.act .sort])).getLast? =
      (session.states Operation.perform other (fewer ++ [.act .sort])).getLast? ∧
    (session.run Operation.perform operation (steps ++ [.act .sort])).filterMap Reply.failure? =
      (session.run Operation.perform other (fewer ++ [.act .sort])).filterMap Reply.failure? := by
  -- The two runs fall out of step where a sorting is left out, so the operations are only shuffled
  -- until the last sorting.
  induction thinned generalizing session operation other with
  | nil => exact ⟨congrArg some shuffled.sortParameters_eq, rfl⟩
  | skip rest ih => exact ih session shuffled.sorted
  | keep step rest ih =>
    cases step with
    | setEnvironment entries => exact ih _ shuffled
    | clearSettings => exact ih _ shuffled
    | act action =>
      obtain ⟨next, failure⟩ := shuffled.perform session.settings action
      have asked : Session.asks (fun load => operation.perform load action) =
          Session.asks (fun load => other.perform load action) :=
        Session.asks_congr fun load => (shuffled.perform load action).2
      obtain ⟨last, failures⟩ := ih (if Session.asks (fun load => other.perform load action) then
        session.keep else session) next
      rw [List.cons_append, List.cons_append, Session.states, Session.states, Session.run,
        Session.run, asked]
      refine ⟨last, ?_⟩
      rw [List.filterMap_cons, List.filterMap_cons, failure, failures]

/-- Whatever happens to an operation before its parameters are sorted, early sortings may be left
out: the same actions fail for the same reasons, and the operation in the end is the same, down to
the order of parameters of one name. So sorting twice is the same as sorting once. -/
theorem run_thinned (session : Session) (operation : Operation)
    (steps fewer : List (SessionStep Action)) (thinned : Thinned steps fewer) :
    (∃ last,
      (session.states perform operation (steps ++ [.act .sort])).getLast? = some last ∧
      (session.states perform operation (fewer ++ [.act .sort])).getLast? = some last) ∧
    (session.run perform operation (steps ++ [.act .sort])).filterMap Reply.failure? =
      (session.run perform operation (fewer ++ [.act .sort])).filterMap Reply.failure? ∧
    operation.sortParameters.sortParameters = operation.sortParameters := by
  obtain ⟨last, failures⟩ := run_of_shuffled thinned session (.refl operation)
  refine ⟨⟨_, List.getLast?_eq_some_getLast (List.cons_ne_nil _ _), ?_⟩, failures, ?_⟩
  · rw [← last]
    exact List.getLast?_eq_some_getLast (List.cons_ne_nil _ _)
  · exact (Shuffled.refl operation).sorted.sortParameters_eq

/-- Two parameters of one name, the first from the path, with a sorting after each. -/
def sortedTwice : List (SessionStep Action) :=
  [.act (.parseTag (.ok ⟨"path", "/{id}", none, ["GET"]⟩)), .act .sort,
   .act (.parseTag (.ok ⟨"parameter", "", some "id", ["string"]⟩)), .act .appendFormat, .act .sort,
   .act (.parseTag (.ok ⟨"parameter", "", some "a", ["string"]⟩))]

def unsorted : List (SessionStep Action) :=
  [.act (.parseTag (.ok ⟨"path", "/{id}", none, ["GET"]⟩)),
   .act (.parseTag (.ok ⟨"parameter", "", some "id", ["string"]⟩)), .act .appendFormat,
   .act (.parseTag (.ok ⟨"parameter", "", some "a", ["string"]⟩))]

theorem run_thinned_sortedTwice :
    Thinned sortedTwice unsorted ∧
    ∃ last,
      ((Session.mk ⟨[], none⟩ (some ⟨["string"], [], "", []⟩)).states perform (ofApi ⟨none, none⟩)
        (sortedTwice ++ [.act .sort])).getLast? = some last ∧
      last.parameters.map (fun parameter => (parameter.name, parameter.location)) =
        [("a", "query"), ("format_type", "path"), ("id", "path"), ("id", "query")] := by
  have thinned : Thinned sortedTwice unsorted :=
    .keep _ (.skip (.keep _ (.keep _ (.skip (.keep _ .nil)))))
  obtain ⟨⟨last, early, late⟩, _⟩ := run_thinned ⟨⟨[], none⟩, some ⟨["string"], [], "", []⟩⟩
    (ofApi ⟨none, none⟩) sortedTwice unsorted thinned
  have parameters : last.parameters =
      List.mergeSort
        [⟨"id", ⟨"string", false, .primitive⟩, "Scope response to id", true, "path", false, none⟩,
         ⟨"id", ⟨"string", false, .primitive⟩, "", false, "query", false, none⟩,
         ⟨"format_type", ⟨"string", false, .primitive⟩, "Response format either JSON or XML", true,
          "path", false, some []⟩,
         ⟨"a", ⟨"string", false, .primitive⟩, "", false, "query", false, none⟩]
        Parameter.namesInOrder :=
    congrArg Operation.parameters (Option.some.inj late).symm
  refine ⟨thinned, last, early, ?_⟩
  rw [parameters]
  simp [List.mergeSort, Parameter.namesInOrder, Text.notAfter]

end Operation

end DocTags
