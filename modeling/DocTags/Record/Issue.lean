/-!
Issues found while a record is checked: where, and what is wrong there.
-/

namespace DocTags

/-- One step down into a value. -/
inductive PathStep where
  | field (name : String)
  | index (position : Nat)
deriving Repr, DecidableEq

/-- What is wrong with a value. -/
inductive IssueKind where
  | missing
  | notText
  | notList
  | notFlag
  | unreadableFlag
  | notInteger
  | unreadableInteger
  | oversizedInteger
  | fractionalInteger
  | infiniteInteger
  | notKind
  | notRecord
  | failedRule
  | frozen
deriving Repr, DecidableEq

def IssueKind.code : IssueKind → String
  | .missing => "missing"
  | .notText => "string_type"
  | .notList => "list_type"
  | .notFlag => "bool_type"
  | .unreadableFlag => "bool_parsing"
  | .notInteger => "int_type"
  | .unreadableInteger => "int_parsing"
  | .oversizedInteger => "int_parsing_size"
  | .fractionalInteger => "int_from_float"
  | .infiniteInteger => "finite_number"
  | .notKind => "enum"
  | .notRecord => "model_type"
  | .failedRule => "value_error"
  | .frozen => "frozen_instance"

/-- Something wrong at a place of a checked value. -/
structure Issue where
  location : List PathStep
  kind : IssueKind
deriving Repr, DecidableEq

/-- The same issue, seen from one step further out. -/
def Issue.under (step : PathStep) (issue : Issue) : Issue :=
  { issue with location := step :: issue.location }

/-- A value, or the issues that stand against it. -/
abbrev Validated (α : Type) := Except (List Issue) α

namespace Validated

variable {α β : Type}

def issue (kind : IssueKind) : Validated α := .error [⟨[], kind⟩]

/-- The same outcome, seen from one step further out. -/
def under (step : PathStep) : Validated α → Validated α
  | .ok value => .ok value
  | .error issues => .error (issues.map (Issue.under step))

/-- Applies a checked function to a checked argument; issues of both are kept, in order. -/
def and (f : Validated (α → β)) (x : Validated α) : Validated β :=
  match f, x with
  | .ok f, .ok x => .ok (f x)
  | .ok _, .error issues => .error issues
  | .error issues, .ok _ => .error issues
  | .error issues, .error others => .error (issues ++ others)

end Validated

end DocTags
