import DocTags.Operation.Nickname

/-!
Operations as documents. In the v2 dialect responses stand under their codes; of several error
messages with one code the last is written, in the place of the first.
-/

namespace DocTags

def ErrorMessage.legacy (error : ErrorMessage) : Json :=
  .object ([("code", .int error.code), ("message", .text error.message)] ++
    match error.responseModel with
    | some model => [("responseModel", .text model)]
    | none => [])

/-- The error response in a v2 document; its type is read here. -/
def ErrorMessage.v2 (load : Settings.Loaded) (error : ErrorMessage) : Except Failure Json :=
  match error.responseModel with
  | none => .ok (.object [("description", .text error.message)])
  | some model =>
    match TypeRef.parse load model with
    | .ok type =>
      .ok (.object [("description", .text error.message), ("schema", .object type.v2)])
    | .error failure => .error failure

namespace Operation

/-- The summary, or the description of the API when there is none. -/
def effectiveSummary (operation : Operation) : Option String :=
  match operation.summary.bind Text.nonempty? with
  | some summary => some summary
  | none => operation.api.description

/-- An empty summary counts as none. -/
theorem effectiveSummary_eq_ite (operation : Operation) :
    operation.effectiveSummary =
      if operation.summary.getD "" = "" then operation.api.description else operation.summary := by
  unfold effectiveSummary
  cases operation.summary with
  | none => rfl
  | some text =>
    rw [Option.bind_some, Option.getD_some]
    split
    · rename_i given
      obtain ⟨rfl, filled⟩ := Text.nonempty?_eq_some_iff.mp given
      rw [if_neg filled]
    · rename_i silent
      rw [if_pos (Text.nonempty?_eq_none_iff.mp silent)]

/-- The fields of a legacy document before the response type is known. -/
def legacyFields (settings : Settings) (nickname : String) (operation : Operation) : Fields Json :=
  [("httpMethod", .textOrNull operation.httpMethod),
   ("nickname", .text nickname),
   ("type", .text "void"),
   ("produces", .texts settings.produces),
   ("parameters", .array (operation.parameters.map fun parameter => .object parameter.legacy)),
   ("summary", .textOrNull operation.effectiveSummary),
   ("notes", .textOrNull operation.notes),
   ("responseMessages", .array (operation.errorMessages.map ErrorMessage.legacy))]

def legacy (load : Settings.Loaded) (operation : Operation) : Except Failure Json :=
  match operation.nickname, load with
  | .error failure, _ => .error failure
  | .ok _, .error fault => .error (.settings fault)
  | .ok nickname, .ok settings =>
    let type := (operation.responseType.map TypeRef.legacy).getD []
    .ok (.object ((operation.legacyFields settings nickname).putAll type))

/-- The response that is documented first. -/
def defaultResponse (operation : Operation) : Json :=
  .object (("description", .textOrNull operation.effectiveSummary) ::
    match operation.responseType with
    | some type => [("schema", .object type.v2)]
    | none => [])

/-- Adds error responses under their codes. -/
def addResponses (load : Settings.Loaded) :
    Fields Json → List ErrorMessage → Except Failure (Fields Json)
  | responses, [] => .ok responses
  | responses, error :: rest =>
    match error.v2 load with
    | .ok response => addResponses load (responses.put (toString error.code) response) rest
    | .error failure => .error failure

def responses (load : Settings.Loaded) (operation : Operation) : Except Failure (Fields Json) :=
  addResponses load [("default", operation.defaultResponse)] operation.errorMessages

/-- What a v2 document says about the operation. -/
def v2Fields (operation : Operation) (responses : Fields Json) : Fields Json :=
  [("summary", .textOrNull operation.effectiveSummary),
   ("tags", .texts (operation.api.resource.bind Text.nonempty?).toList),
   ("parameters", .array (operation.parameters.map fun parameter => .object parameter.v2)),
   ("responses", .object responses)] ++
  match operation.notes.bind Text.nonempty? with
  | some notes => [("description", .text notes)]
  | none => []

/-- The operation in a v2 document, under its method in lower case. -/
def v2 (load : Settings.Loaded) (operation : Operation) : Except Failure Json := do
  let (_, method) ← operation.endpoint
  let responses ← operation.responses load
  return .object [(Text.lowered method, .object (operation.v2Fields responses))]

/-- The keys of the responses in a v2 document, in order. -/
def responseOrder (load : Settings.Loaded) (operation : Operation) :
    Except Failure (List String) := do
  let _ ← operation.endpoint
  let responses ← operation.responses load
  return responses.names

end Operation

end DocTags
