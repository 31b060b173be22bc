import DocTags.Failure
import DocTags.Json.Basic

/-!
Checks of JSON values against the records of this library. A check goes on after an issue, so that
all issues of a value are reported together, in the order of its fields; it breaks off only when a
value cannot be looked through at all, and then nothing else is reported.
-/

namespace DocTags

abbrev Checked (α : Type) := Except Abort (Validated α)

namespace Checked

variable {α β : Type}

def accept (value : α) : Checked α := .ok (.ok value)

def issue (kind : IssueKind) : Checked α := .ok (.issue kind)

/-- The same outcome, seen from one step further out. -/
def under (step : PathStep) : Checked α → Checked α
  | .ok validated => .ok (validated.under step)
  | .error abort => .error abort

/-- Applies a checked function to a checked argument. The function is checked first, and issues of
both are kept. -/
def and (f : Checked (α → β)) (x : Checked α) : Checked β :=
  match f with
  | .error abort => .error abort
  | .ok f =>
    match x with
    | .error abort => .error abort
    | .ok x => .ok (Validated.and f x)

def map (f : α → β) (x : Checked α) : Checked β := (accept f).and x

/-- The value, or the failure that a rejected value means. -/
def result : Checked α → Except Failure α
  | .ok (.ok value) => .ok value
  | .ok (.error issues) => .error (.invalid issues)
  | .error abort => .error (.aborted abort)

/-- Checks a field that must be given. -/
def mandatory (fields : Fields Json) (name : String) (check : Json → Checked α) : Checked α :=
  match fields.get? name with
  | some value => (check value).under (.field name)
  | none => (issue .missing).under (.field name)

/-- Checks a field that has a default. -/
def defaulting (fields : Fields Json) (name : String) (default : α) (check : Json → Checked α) :
    Checked α :=
  match fields.get? name with
  | some value => (check value).under (.field name)
  | none => accept default

/-- Allows null beside the values that a check accepts. -/
def nullable (check : Json → Checked α) : Json → Checked (Option α)
  | .null => accept none
  | value => (check value).map some

/-- Checks the items of an array from a given position on. -/
def items (check : Json → Checked α) (position : Nat) : List Json → Checked (List α)
  | [] => accept []
  | item :: rest =>
    (((check item).under (.index position)).map List.cons).and (items check (position + 1) rest)

def listOf (check : Json → Checked α) : Json → Checked (List α)
  | .array values => items check 0 values
  | _ => issue .notList

/-- Checks an object by its fields. -/
def record (check : Fields Json → Checked α) : Json → Checked α
  | .object fields => check fields
  | _ => issue .notRecord

end Checked

end DocTags
