import DocTags.Proofs.Document.Alike
import DocTags.Proofs.Operation.Dialects
import Mathlib.Data.List.Forall2

/-!
# What can be told from the v2 document of an operation

Two operations whose v2 documents are alike have all in common that such a document should carry:
method, summary, types, group, notes, parameters, and the last message under each error code. A
document says whether a parameter takes several values only where it is an array of primitive
types.
-/

namespace DocTags

structure Parameter.Alike (parameter other : Parameter) : Prop where
  name : parameter.name = other.name
  description : parameter.description = other.description
  required : parameter.required = other.required
  location : parameter.location = other.location
  type : parameter.type = other.type
  allowableValues : parameter.allowableValues = other.allowableValues
  allowMultiple : parameter.type.array = true → parameter.type.kind = .primitive →
    parameter.allowMultiple = other.allowMultiple

/-- The last error message with a given code. -/
def Operation.lastError? (operation : Operation) (code : Int) : Option ErrorMessage :=
  (operation.errorMessages.filter (·.code == code)).getLast?

structure Operation.Alike (operation other : Operation) : Prop where
  httpMethod : operation.httpMethod.map Text.lowered = other.httpMethod.map Text.lowered
  summary : operation.effectiveSummary = other.effectiveSummary
  responseType : operation.responseType = other.responseType
  resource : operation.api.resource.getD "" = other.api.resource.getD ""
  notes : operation.notes.getD "" = other.notes.getD ""
  codes : ∀ code, (∃ error ∈ operation.errorMessages, error.code = code) ↔
    ∃ error ∈ other.errorMessages, error.code = code
  messages : ∀ code, (operation.lastError? code).map (·.message) =
    (other.lastError? code).map (·.message)
  parameters : List.Forall₂ Parameter.Alike operation.parameters other.parameters

/-! ### The part of a document that gives a type -/

namespace Json

variable {document other : Json}

theorem Alike.typePart (alike : document.Alike other) : document.typePart.Alike other.typePart := by
  have type := alike.get? "type"
  have items := alike.get? "items"
  unfold Json.typePart
  simp only [List.filterMap_cons, List.filterMap_nil]
  generalize document.get? "type" = value at type ⊢
  generalize other.get? "type" = otherValue at type ⊢
  generalize document.get? "items" = element at items ⊢
  generalize other.get? "items" = otherElement at items ⊢
  cases type with
  | none =>
    cases items with
    | none => exact .refl _
    | some sameItems => exact .cons sameItems (.refl _)
  | some sameType =>
    cases items with
    | none => exact .cons sameType (.refl _)
    | some sameItems => exact .cons sameType (.cons sameItems (.refl _))

theorem Alike.schemaPart (alike : document.Alike other) :
    document.schemaPart.Alike other.schemaPart := by
  have schema := alike.get? "schema"
  unfold Json.schemaPart
  generalize document.get? "schema" = value at schema ⊢
  generalize other.get? "schema" = otherValue at schema ⊢
  cases schema with
  | none => exact alike.typePart
  | some same => exact same

end Json

/-! ### Parameters -/

namespace Parameter

variable {parameter other : Parameter}

theorem get?_v2_enum (parameter : Parameter) :
    Json.get? (.object parameter.v2) "enum" = parameter.allowableValues.map .texts := by
  unfold v2 v2Type TypeRef.v2 TypeRef.v2Element
  cases parameter.type.isReference <;> cases parameter.type.array <;>
    cases parameter.allowMultiple <;> cases parameter.allowableValues <;> rfl

theorem isSome_collectionFormat (array : parameter.type.array = true)
    (primitive : parameter.type.kind = .primitive) :
    (Json.get? (.object parameter.v2) "collectionFormat").isSome = parameter.allowMultiple := by
  have notReference : parameter.type.isReference = false := by simp [TypeRef.isReference, primitive]
  unfold v2 v2Type TypeRef.v2 TypeRef.v2Element
  rw [array, notReference]
  cases parameter.allowMultiple <;> cases parameter.allowableValues <;> rfl

theorem alike_of_v2 (alike : Json.Alike (.object parameter.v2) (.object other.v2)) :
    parameter.Alike other := by
  have type : parameter.type = other.type := by
    apply TypeRef.eq_of_alike
    rw [← schemaPart_v2, ← schemaPart_v2]
    exact alike.schemaPart
  refine ⟨?_, ?_, ?_, ?_, type, ?_, ?_⟩
  · exact (alike.field "name" rfl rfl).text_eq
  · exact (alike.field "description" rfl rfl).text_eq
  · exact (alike.field "required" rfl rfl).bool_eq
  · exact (alike.field "in" rfl rfl).text_eq
  · have values := alike.get? "enum"
    rw [get?_v2_enum, get?_v2_enum] at values
    exact Json.eq_of_rel_map Json.Alike.texts_eq values
  · intro array primitive
    rw [← isSome_collectionFormat array primitive, alike.isSome_eq, isSome_collectionFormat]
    · rw [← type, array]
    · rw [← type, primitive]

end Parameter

/-! ### Error messages -/

variable {load loadOther : Settings.Loaded}

theorem ErrorMessage.get?_v2_description {error : ErrorMessage} {response : Json}
    (written : error.v2 load = .ok response) :
    response.get? "description" = some (.text error.message) := by
  unfold ErrorMessage.v2 at written
  split at written
  · obtain rfl := Except.ok.inj written
    rfl
  · split at written
    · obtain rfl := Except.ok.inj written
      rfl
    · cases written

namespace Operation

variable {operation other : Operation} {responses otherResponses : Fields Json}

theorem lastError?_eq (operation : Operation) (code : Int) :
    (operation.errorMessages.filter (toString ·.code == toString code)).getLast? =
      operation.lastError? code := by
  simp only [lastError?, toString_code_beq]

theorem mem_code_iff {code : Int} :
    (∃ error ∈ operation.errorMessages, error.code = code) ↔
      ((operation.lastError? code).map (·.message)).isSome := by
  rw [Option.isSome_map, lastError?, List.getLast?_isSome]
  simp

theorem get?_responses_code (gathered : operation.responses load = .ok responses) (code : Int) :
    (Json.get? (.object responses) (toString code)).bind (·.get? "description") =
      ((operation.lastError? code).map (·.message)).map .text := by
  rcases get?_addResponses gathered (toString code) with
    ⟨error, response, isLast, written, found⟩ | ⟨none, kept⟩
  · rw [← lastError?_eq, isLast, Json.get?, found]
    exact ErrorMessage.get?_v2_description written
  · -- No code is written like the key of the response that is documented first.
    have absent : Fields.get? [("default", operation.defaultResponse)] (toString code) = .none := by
      rw [Fields.get?, if_neg (toString_code_ne_default code).symm, Fields.get?]
    rw [← lastError?_eq, none, Json.get?, kept, absent]
    rfl

theorem messages_eq (gathered : operation.responses load = .ok responses)
    (otherGathered : other.responses loadOther = .ok otherResponses)
    (alike : Json.Alike (.object responses) (.object otherResponses)) (code : Int) :
    (operation.lastError? code).map (·.message) = (other.lastError? code).map (·.message) := by
  have described := Json.rel_bind_get? (alike.get? (toString code)) "description"
  rw [get?_responses_code gathered, get?_responses_code otherGathered] at described
  exact Json.eq_of_rel_map Json.Alike.text_eq described

theorem responseType_eq (gathered : operation.responses load = .ok responses)
    (otherGathered : other.responses loadOther = .ok otherResponses)
    (alike : Json.Alike (.object responses) (.object otherResponses)) :
    operation.responseType = other.responseType := by
  have schema : ∀ operation : Operation, operation.defaultResponse.get? "schema" =
      operation.responseType.map fun type => .object type.v2 := by
    intro operation
    unfold defaultResponse
    cases operation.responseType <;> rfl
  have default := alike.field "default" (get?_responses_default gathered)
    (get?_responses_default otherGathered)
  have each := default.get? "schema"
  rw [schema, schema] at each
  exact Json.eq_of_rel_map TypeRef.eq_of_alike each

/-! ### Operations -/

theorem get?_v2Fields_description (operation : Operation) (responses : Fields Json) :
    Json.get? (.object (operation.v2Fields responses)) "description" =
      (operation.notes.bind Text.nonempty?).map .text := by
  unfold v2Fields
  cases operation.notes.bind Text.nonempty? <;> rfl

theorem alike_of_v2Fields (method : operation.httpMethod.map Text.lowered =
      other.httpMethod.map Text.lowered)
    (gathered : operation.responses load = .ok responses)
    (otherGathered : other.responses loadOther = .ok otherResponses)
    (alike : Json.Alike (.object (operation.v2Fields responses))
      (.object (other.v2Fields otherResponses))) : operation.Alike other := by
  have responsesAlike := alike.field "responses" rfl rfl
  have messages := messages_eq gathered otherGathered responsesAlike
  refine ⟨method, ?_, responseType_eq gathered otherGathered responsesAlike, ?_, ?_, ?_,
    messages, ?_⟩
  · exact (alike.field "summary" rfl rfl).textOrNull_eq
  · have tags := congrArg List.head? (alike.field "tags" rfl rfl).texts_eq
    rw [Option.head?_toList, Option.head?_toList] at tags
    rw [← Text.getD_bind_nonempty?, tags, Text.getD_bind_nonempty?]
  · have notes := alike.get? "description"
    rw [get?_v2Fields_description, get?_v2Fields_description] at notes
    rw [← Text.getD_bind_nonempty?, Json.eq_of_rel_map Json.Alike.text_eq notes,
      Text.getD_bind_nonempty?]
  · intro code
    rw [mem_code_iff, mem_code_iff, messages]
  · have parameters := (alike.field "parameters" rfl rfl).items
    rw [List.forall₂_map_left_iff, List.forall₂_map_right_iff] at parameters
    exact parameters.imp fun _ _ => Parameter.alike_of_v2

theorem v2_written {document : Json} (written : operation.v2 load = .ok document) :
    ∃ method responses, operation.httpMethod = some method ∧
      operation.responses load = .ok responses ∧
      document = .object [(Text.lowered method, .object (operation.v2Fields responses))] := by
  cases located : operation.endpoint with
  | error failure =>
    rw [v2, located] at written
    cases written
  | ok endpoint =>
    obtain ⟨responses, gathered, rfl⟩ := v2_eq_ok located written
    exact ⟨endpoint.2, responses, httpMethod_of_endpoint located, gathered, rfl⟩

/-- Operations whose v2 documents are alike have the same method up to case, summary, response
type, group, notes, error codes with their last messages, and parameters; that a parameter takes
several values is written only of arrays of primitive types. -/
theorem v2_recovers (load loadOther : Settings.Loaded) (operation other : Operation)
    (document otherDocument : Json) (written : operation.v2 load = .ok document)
    (otherWritten : other.v2 loadOther = .ok otherDocument)
    (alike : document.Alike otherDocument) : operation.Alike other := by
  obtain ⟨method, responses, given, gathered, rfl⟩ := v2_written written
  obtain ⟨otherMethod, otherResponses, otherGiven, otherGathered, rfl⟩ := v2_written otherWritten
  obtain ⟨sameMethod, described⟩ := alike.only
  have lowered : operation.httpMethod.map Text.lowered = other.httpMethod.map Text.lowered := by
    rw [given, otherGiven]
    exact congrArg some sameMethod
  exact alike_of_v2Fields lowered gathered otherGathered described

/-- An operation with a superseded error message and a flag that no v2 document shows. -/
def listing : Operation where
  api := ⟨some "All widgets", some "Widgets"⟩
  path := some "/widgets"
  httpMethod := some "GET"
  summary := none
  notes := none
  parameters :=
    [⟨"page", ⟨"integer", false, .primitive⟩, "", false, "query", true, none⟩,
     ⟨"tags", ⟨"array", true, .primitive⟩, "", false, "query", true, some ["new", "old"]⟩]
  responseType := some ⟨"Widget", true, .reference⟩
  errorMessages :=
    [⟨404, "Gone", none⟩, ⟨500, "Broken", some "Array<Error>"⟩, ⟨404, "Missing", none⟩]
  modelNames := ["Widget"]

/-- The same, said in other words and with its error messages in another order. -/
def relisting : Operation where
  api := ⟨none, some "Widgets"⟩
  path := some "/api/widgets"
  httpMethod := some "get"
  summary := some "All widgets"
  notes := some ""
  parameters :=
    [⟨"page", ⟨"integer", false, .primitive⟩, "", false, "query", false, none⟩,
     ⟨"tags", ⟨"array", true, .primitive⟩, "", false, "query", true, some ["new", "old"]⟩]
  responseType := some ⟨"Widget", true, .reference⟩
  errorMessages := [⟨500, "Broken", some "Array<Error>"⟩, ⟨404, "Missing", none⟩]
  modelNames := []

def missingResponse : String × Json := ("404", .object [("description", .text "Missing")])

def brokenResponse : String × Json :=
  ("500", .object [("description", .text "Broken"),
    ("schema", .object (TypeRef.v2 ⟨"Error", true, .reference⟩))])

def listingDocument (errors : Fields Json) : Json :=
  .object [("get", .object (listing.v2Fields (("default", listing.defaultResponse) :: errors)))]

theorem v2_recovers_listing :
    listing.v2 (.ok Settings.standard) =
      .ok (listingDocument [missingResponse, brokenResponse]) ∧
    relisting.v2 (.ok Settings.standard) =
      .ok (listingDocument [brokenResponse, missingResponse]) ∧
    (listingDocument [missingResponse, brokenResponse]).Alike
      (listingDocument [brokenResponse, missingResponse]) ∧
    listing.Alike relisting ∧ listing.effectiveSummary = some "All widgets" ∧
    relisting.effectiveSummary = some "All widgets" := by
  have written : listing.v2 (.ok Settings.standard) =
      .ok (listingDocument [missingResponse, brokenResponse]) := rfl
  have otherWritten : relisting.v2 (.ok Settings.standard) =
      .ok (listingDocument [brokenResponse, missingResponse]) := rfl
  have responses : Json.Alike
      (.object [("default", listing.defaultResponse), missingResponse, brokenResponse])
      (.object [("default", listing.defaultResponse), brokenResponse, missingResponse]) :=
    .cons (.refl _) (.swap (by decide))
  have alike : (listingDocument [missingResponse, brokenResponse]).Alike
      (listingDocument [brokenResponse, missingResponse]) := by
    refine .cons ?_ (.refl _)
    exact .cons (.refl _) (.cons (.refl _) (.cons (.refl _) (.cons responses (.refl _))))
  have recovered := v2_recovers _ _ _ _ _ _ written otherWritten alike
  -- One summary is the description of the API, the other is given.
  have summary : listing.effectiveSummary = some "All widgets" := rfl
  exact ⟨written, otherWritten, alike, recovered, summary, recovered.summary.symm.trans summary⟩

end Operation

end DocTags
