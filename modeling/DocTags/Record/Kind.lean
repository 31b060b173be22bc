import DocTags.Record.Check
import DocTags.Record.State

/-!
The kinds of records, and assignment to a field. Types and API contexts cannot be changed once they
are made; the fields of other records take any value, but not the fields that are computed. Names
that start with an underscore are open to notes that are not part of a record's state.
-/

namespace DocTags

inductive RecordKind where
  | tag
  | declaration
  | apiContext
  | type
  | property
  | model
  | parameter
  | errorMessage
  | operation
deriving Repr, DecidableEq

namespace RecordKind

def name : RecordKind → String
  | .tag => "Tag"
  | .declaration => "Declaration"
  | .apiContext => "ApiContext"
  | .type => "Type"
  | .property => "Property"
  | .model => "Model"
  | .parameter => "Parameter"
  | .errorMessage => "ErrorMessage"
  | .operation => "Operation"

/-- The fields that records of every kind compute. -/
def sharedComputedFields : List String := ["model_extra", "model_fields_set"]

/-- The fields that records of a kind compute from the others. -/
def computedFields : RecordKind → List String
  | .type => ["ref", "model_name"] ++ sharedComputedFields
  | .property => ["model_name"] ++ sharedComputedFields
  | .model => ["valid", "properties_model_names", "required_names"] ++ sharedComputedFields
  | .operation => ["nickname", "effective_summary"] ++ sharedComputedFields
  | _ => sharedComputedFields

def isFrozen : RecordKind → Bool
  | .type | .apiContext => true
  | _ => false

/-- Checks a value as a record of a kind and gives the state of the record. -/
def checkState (load : Settings.Loaded) : RecordKind → Json → Checked (Fields Json)
  | .tag, value => (Tag.check value).map Tag.state
  | .declaration, value => (Declaration.check value).map Declaration.state
  | .apiContext, value => (ApiContext.check value).map ApiContext.state
  | .type, value => (TypeRef.check load value).map TypeRef.state
  | .property, value => (Property.check load value).map Property.state
  | .model, value => (Model.check load value).map Model.state
  | .parameter, value => (Parameter.check load value).map Parameter.state
  | .errorMessage, value => (ErrorMessage.check value).map ErrorMessage.state
  | .operation, value => (Operation.check load value).map Operation.state

/-- A value as the state shows it in a field: the code of an error message shows a flag as a
number. -/
def shown (kind : RecordKind) (field : String) (value : Json) : Json :=
  match kind, field, value with
  | .errorMessage, "code", .bool value => .int (if value then 1 else 0)
  | _, _, value => value

/-- Assigns a value to a field of a record with a given state. -/
def assign (kind : RecordKind) (state : Fields Json) (field : String) (value : Json) :
    Except Failure (Fields Json) :=
  if field.toList.head? == some '_' then .ok state
  else if kind.isFrozen then .error (.invalid [⟨[.field field], .frozen⟩])
  else if field ∈ kind.computedFields then .error (.readOnly kind.name field)
  else if field ∈ state.names then .ok (state.put field (kind.shown field value))
  else .error (.noField kind.name field)

end RecordKind

end DocTags
