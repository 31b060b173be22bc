import DocTags.Failure

/-!
What a piece of work leaves behind: its state, the events it logged, and why it stopped if it did.
A failure does not undo what was done before it.
-/

namespace DocTags

/-- Something worth a line in the log. -/
inductive LogEvent where
  | builtModel (id : Option String) (properties : Nat)
  | noClassDeclaration (declarations : Nat)
  | ignoredTag (tagName : String)
  | builtOperation (method path : Option String)
deriving Repr, DecidableEq

namespace LogEvent

/-- A text, or the word for none. -/
def orNone (text : Option String) : String := text.getD "None"

def level : LogEvent → String
  | .noClassDeclaration _ => "WARNING"
  | _ => "DEBUG"

def logger : LogEvent → String
  | .builtModel _ _ | .noClassDeclaration _ => "swagger_tags.schema.model"
  | .ignoredTag _ | .builtOperation _ _ => "swagger_tags.schema.operation"

def message : LogEvent → String
  | .builtModel id properties =>
    "Built model " ++ orNone id ++ " with " ++ toString properties ++ " properties"
  | .noClassDeclaration declarations =>
    "No class declaration among " ++ toString declarations ++ " declarations, no model built"
  | .ignoredTag tagName => "Ignoring unrecognized tag @" ++ tagName
  | .builtOperation method path => "Built operation " ++ orNone method ++ " " ++ orNone path

end LogEvent

/-- A result with the events logged on the way to it. -/
structure Logged (α : Type) where
  log : List LogEvent
  result : Except Failure α

/-- Goes on with a result; a failure stays. -/
def Logged.andThen {α β : Type} (first : Logged α) (next : α → Logged β) : Logged β :=
  match first.result with
  | .error failure => ⟨first.log, .error failure⟩
  | .ok value =>
    let second := next value
    ⟨first.log ++ second.log, second.result⟩

/-- Does the work for each item in order, up to the first failure. -/
def Logged.forEach {α β : Type} (work : α → Logged β) : List α → Logged (List β)
  | [] => ⟨[], .ok []⟩
  | item :: rest =>
    (work item).andThen fun value =>
      (Logged.forEach work rest).andThen fun values => ⟨[], .ok (value :: values)⟩

/-- The state that work leaves, the events it logged, and the failure that stopped it. -/
structure Outcome (σ : Type) where
  state : σ
  log : List LogEvent
  failure : Option Failure
deriving Repr, DecidableEq

namespace Outcome

variable {σ : Type}

/-- Work that went through and had nothing to log. -/
def done (state : σ) : Outcome σ := ⟨state, [], none⟩

def stopped (state : σ) (failure : Failure) : Outcome σ := ⟨state, [], some failure⟩

def mapFailure (outcome : Outcome σ) (change : Failure → Failure) : Outcome σ :=
  { outcome with failure := outcome.failure.map change }

/-- Goes on from the state that was reached, unless work stopped. -/
def andThen (first : Outcome σ) (next : σ → Outcome σ) : Outcome σ :=
  match first.failure with
  | some _ => first
  | none =>
    let second := next first.state
    { second with log := first.log ++ second.log }

theorem andThen_of_failure {first : Outcome σ} {failure : Failure}
    (failed : first.failure = some failure) (next : σ → Outcome σ) :
    first.andThen next = first := by
  rw [andThen, failed]

theorem andThen_of_success {first : Outcome σ} (through : first.failure = none)
    (next : σ → Outcome σ) :
    first.andThen next =
      ⟨(next first.state).state, first.log ++ (next first.state).log,
        (next first.state).failure⟩ := by
  rw [andThen, through]

theorem andThen_assoc (first : Outcome σ) (next last : σ → Outcome σ) :
    (first.andThen next).andThen last = first.andThen fun state => (next state).andThen last := by
  cases failed : first.failure with
  | some failure =>
    rw [andThen_of_failure failed, andThen_of_failure failed, andThen_of_failure failed]
  | none =>
    rw [andThen_of_success failed, andThen_of_success failed]
    cases failedNext : (next first.state).failure with
    | some failure =>
      rw [andThen_of_failure rfl, andThen_of_failure failedNext, failedNext]
    | none =>
      rw [andThen_of_success rfl, andThen_of_success failedNext, List.append_assoc]

end Outcome

end DocTags
