import DocTags.Json.Basic
import DocTags.Outcome
import DocTags.Settings.Load

/-!
Sessions: actions on one record, between which the environment may change. Settings are loaded when
an action first asks for them and are then kept until they are cleared; settings that could not be
loaded are not kept.
-/

namespace DocTags

/-- The environment, and the settings kept since they were loaded. -/
structure Session where
  environment : Settings.Environment
  kept : Option Settings

/-- What an action answers, and what it leaves. -/
structure Reply (σ : Type) where
  result : Except Failure Json
  state : σ
  log : List LogEvent

/-- An answer that leaves the state as it is. -/
def Reply.query {σ : Type} (state : σ) (result : Except Failure Json) : Reply σ :=
  ⟨result, state, []⟩

/-- The answer of work on the state: null, or the failure that stopped it. -/
def Reply.ofOutcome {σ : Type} (outcome : Outcome σ) : Reply σ :=
  let result := match outcome.failure with
    | some failure => .error failure
    | none => .ok .null
  ⟨result, outcome.state, outcome.log⟩

inductive SessionStep (α : Type) where
  /-- Replaces all entries and removes the settings file. -/
  | setEnvironment (entries : List (String × String))
  | clearSettings
  | act (action : α)

namespace Session

/-- The settings that an action gets when it asks for them. -/
def settings (session : Session) : Settings.Loaded :=
  match session.kept with
  | some settings => .ok settings
  | none => Settings.load session.environment

/-- Whether an action asks for settings. An action that does fails as soon as there are none, and
one that does not never notices. -/
def asks {σ : Type} (perform : Settings.Loaded → Reply σ) : Bool :=
  match (perform (.error (.invalid []))).result with
  | .error failure => failure.isSettings
  | .ok _ => false

/-- Keeps the settings if they could be loaded. -/
def keep (session : Session) : Session :=
  match session.settings with
  | .ok settings => { session with kept := some settings }
  | .error _ => session

def run {σ α : Type} (perform : Settings.Loaded → σ → α → Reply σ) :
    Session → σ → List (SessionStep α) → List (Reply σ)
  | _, _, [] => []
  | session, state, .setEnvironment entries :: rest =>
    .query state (.ok .null) ::
      run perform { session with environment := ⟨entries, none⟩ } state rest
  | session, state, .clearSettings :: rest =>
    .query state (.ok .null) :: run perform { session with kept := none } state rest
  | session, state, .act action :: rest =>
    let reply := perform session.settings state action
    let asked := asks fun load => perform load state action
    reply :: run perform (if asked then session.keep else session) reply.state rest

end Session

end DocTags
