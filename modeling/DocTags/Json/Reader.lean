import DocTags.Json.Token

/-!
Reading a JSON value from its tokens. The reader holds the containers that are still open, each
with what it has so far, and what may come next. A name given twice in one object keeps its first
place and takes its last value.
-/

namespace DocTags.Json

/-- A container that is still open. -/
inductive OpenContainer where
  /-- An array with its items so far, last first. -/
  | array (items : List Json)
  /-- An object with its fields so far and the name that waits for a value. -/
  | object (fields : Fields Json) (name : String)

/-- What may come next. -/
inductive Expected where
  | value
  | valueOrClose
  | name
  | nameOrClose
  | colon
  | commaOrClose
  | nothing (result : Json)

/-- The reader: the open containers, innermost first, and what may come next. -/
structure Reader where
  containers : List OpenContainer
  expected : Expected

namespace Reader

/-- Hands a finished value to the innermost open container. -/
def complete (value : Json) : List OpenContainer → Reader
  | [] => ⟨[], .nothing value⟩
  | .array items :: outer => ⟨.array (value :: items) :: outer, .commaOrClose⟩
  | .object fields name :: outer => ⟨.object (fields.put name value) name :: outer, .commaOrClose⟩

def startValue (containers : List OpenContainer) : Token → Option Reader
  | .openArray => some ⟨.array [] :: containers, .valueOrClose⟩
  | .openObject => some ⟨.object [] "" :: containers, .nameOrClose⟩
  | .text value => some (complete (.text value) containers)
  | .scalar value => some (complete value containers)
  | _ => none

def takeName (containers : List OpenContainer) (name : String) : Option Reader :=
  match containers with
  | .object fields _ :: outer => some ⟨.object fields name :: outer, .colon⟩
  | _ => none

def close (containers : List OpenContainer) (token : Token) : Option Reader :=
  match token, containers with
  | .closeArray, .array items :: outer => some (complete (.array items.reverse) outer)
  | .closeObject, .object fields _ :: outer => some (complete (.object fields) outer)
  | _, _ => none

def afterComma (containers : List OpenContainer) : Option Reader :=
  match containers with
  | .array _ :: _ => some ⟨containers, .value⟩
  | .object _ _ :: _ => some ⟨containers, .name⟩
  | [] => none

def step (r : Reader) (token : Token) : Option Reader :=
  match r.expected, token with
  | .value, token => startValue r.containers token
  | .valueOrClose, .closeArray => close r.containers .closeArray
  | .valueOrClose, token => startValue r.containers token
  | .name, .text name => takeName r.containers name
  | .nameOrClose, .text name => takeName r.containers name
  | .nameOrClose, .closeObject => close r.containers .closeObject
  | .colon, .colon => some ⟨r.containers, .value⟩
  | .commaOrClose, .comma => afterComma r.containers
  | .commaOrClose, token => close r.containers token
  | _, _ => none

/-- The value read once the tokens are over. -/
def finish (r : Reader) : Option Json :=
  match r.expected with
  | .nothing result => some result
  | _ => none

end Reader

/-- The value that a JSON text stands for, and nothing when it is not well formed. -/
def read? (text : String) : Option Json := do
  let tokens ← tokens? text.toList
  let reader ← tokens.foldlM Reader.step ⟨[], .value⟩
  reader.finish

end DocTags.Json
