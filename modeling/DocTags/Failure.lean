import DocTags.Settings.Basic
import DocTags.TagError

/-!
Everything that can stop the work on tags and documents.
-/

namespace DocTags

/-- Why the check of a type name broke off. -/
inductive Abort where
  /-- A value of this form has no parts to go through. -/
  | notIterable (form : String)
  /-- A part of this form is not a text. -/
  | notCased (form : String)
deriving Repr, DecidableEq

def Abort.message : Abort → String
  | .notIterable form => "'" ++ form ++ "' object is not iterable"
  | .notCased form => "'" ++ form ++ "' object has no attribute 'isupper'"

inductive Failure where
  | tag (error : TagError)
  | settings (fault : Settings.Fault)
  /-- The settings could not be loaded while the kind of a type was looked up. -/
  | unclassified (fault : Settings.Fault)
  | invalid (issues : List Issue)
  | aborted (cause : Abort)
  /-- A field that is computed from the others was assigned to. -/
  | readOnly (record field : String)
  /-- A field that the record does not have was assigned to. -/
  | noField (record field : String)
deriving Repr, DecidableEq

namespace Failure

def readOnlyMessage (record field : String) : String :=
  "property '" ++ field ++ "' of '" ++ record ++ "' object has no setter"

def noFieldMessage (record field : String) : String :=
  "\"" ++ record ++ "\" object has no field \"" ++ field ++ "\""

/-- The failure for a cause that lies in the tags. -/
def ofCause (cause : TagError.Cause) (tagName : Option String) : Failure :=
  .tag (TagError.ofCause cause tagName)

def isSettings : Failure → Bool
  | .settings _ => true
  | .unclassified _ => true
  | _ => false

/-- Changes the error of a malformed tag and leaves every other failure as it is. -/
def mapMalformed (change : TagError → TagError) : Failure → Failure
  | .tag error => if error.kind = .malformedTag then .tag (change error) else .tag error
  | other => other

/-- Says which tag is malformed. -/
def inTag (tagName : String) : Failure → Failure :=
  mapMalformed fun error => { error with tagName := some tagName }

/-- Says which tag is malformed, unless that is already said. -/
def inTagIfUnknown (tagName : String) : Failure → Failure :=
  mapMalformed fun error =>
    if (error.tagName.getD "").isEmpty then { error with tagName := some tagName } else error

/-- Says in which declaration the malformed tag stands. -/
def inDeclaration (path : Option String) : Failure → Failure :=
  mapMalformed fun error => { error with declaration := path }

end Failure

end DocTags
