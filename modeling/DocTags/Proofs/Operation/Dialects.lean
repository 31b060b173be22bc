import DocTags.Operation.Document
import DocTags.Proofs.Operation.Writing
import DocTags.Proofs.Text.Greedy
import Mathlib.Data.List.Forall2

/-!
# The two dialects say the same

An operation is written by two encoders that name, nest and merge things differently. Here their
documents are compared as documents: each field of one dialect is found again in the other, types
after their references have been rewritten, and each error response under the code of the last
message that has it.
-/

namespace DocTags

namespace Json

/-- A field of one document and a field of another hold one value. -/
def Shares (first : Json) (name : String) (second : Json) (other : String) : Prop :=
  ∃ value, first.get? name = some value ∧ second.get? other = some value

/-- The model that a reference of the v2 dialect is to. -/
def definition? : Json → Option String
  | .object [("$ref", .text target)] =>
    (Text.dropStart? "#/definitions/".toList target.toList).map String.ofList
  | _ => none

/-- A reference of the v2 dialect as a field with the name of the model; all else as it is. -/
def relinked (key : String) (document : Json) : Json :=
  match document.definition? with
  | some name => .object [(key, .text name)]
  | none => document

/-- A type of the v2 dialect in the legacy dialect: only its references are written in another
way, those of array items as `$ref` and others as `type`. -/
def legacyType : Json → Json
  | .object fields =>
    relinked "type" (.object (fields.map fun field =>
      if field.1 = "items" then ("items", field.2.relinked "$ref") else field))
  | other => other

/-- The part of a document that gives a type. -/
def typePart (document : Json) : Json :=
  .object (["type", "items"].filterMap fun name =>
    (document.get? name).map fun value => (name, value))

/-- The part of a parameter of the v2 dialect that gives its type. -/
def schemaPart (document : Json) : Json := (document.get? "schema").getD document.typePart

/-- Whether the code of an error message is written in the given way. -/
def hasCode (key : String) (message : Json) : Bool :=
  match message.get? "code" with
  | some (.int code) => toString code == key
  | _ => false

end Json

/-! ### When two documents agree

The first document is always the one of the legacy dialect. -/

structure SameParameter (old new : Json) : Prop where
  name : old.Shares "name" new "name"
  description : old.Shares "description" new "description"
  required : old.Shares "required" new "required"
  location : old.Shares "paramType" new "in"
  values : (old.get? "allowableValues").map (·.get? "values") = (new.get? "enum").map some
  type : old.typePart = new.schemaPart.legacyType

structure SameError (load : Settings.Loaded) (message response : Json) : Prop where
  text : message.Shares "message" response "description"
  untyped : message.get? "responseModel" = none → response.get? "schema" = none
  typed : ∀ model, message.get? "responseModel" = some model →
    ∃ raw type, model = .text raw ∧ TypeRef.parse load raw = .ok type ∧
      response.get? "schema" = some (.object type.v2)

/-- Each code has a response, which is that of the last message with this code. -/
structure SameErrors (load : Settings.Loaded) (messages : List Json) (responses : Json) : Prop where
  last : ∀ key response, key ≠ "default" → responses.get? key = some response →
    ∃ message, (messages.filter (Json.hasCode key)).getLast? = some message ∧
      SameError load message response
  coded : ∀ message ∈ messages, ∃ code, message.get? "code" = some (.int code) ∧
    toString code ≠ "default" ∧ ∃ response, responses.get? (toString code) = some response

structure SameOperation (load : Settings.Loaded) (old new : Json) : Prop where
  summary : old.Shares "summary" new "summary"
  parameters : ∃ olds news, old.get? "parameters" = some (.array olds) ∧
    new.get? "parameters" = some (.array news) ∧ List.Forall₂ SameParameter olds news
  responses : ∃ messages responses default,
    old.get? "responseMessages" = some (.array messages) ∧
    new.get? "responses" = some responses ∧ responses.get? "default" = some default ∧
    old.typePart =
      ((default.get? "schema").map Json.legacyType).getD (.object [("type", .text "void")]) ∧
    SameErrors load messages responses

/-! ### Types -/

namespace Json

theorem definition?_reference (name : String) :
    definition? (.object [("$ref", .text ("#/definitions/" ++ name))]) = some name := by
  have target : Text.dropStart? "#/definitions/".toList ("#/definitions/" ++ name).toList =
      some name.toList := by
    rw [Text.dropStart?_eq_some, String.toList_append]
  rw [definition?, target, Option.map_some, String.ofList_toList]

theorem legacyType_reference (name : String) :
    legacyType (.object [("$ref", .text ("#/definitions/" ++ name))]) =
      .object [("type", .text name)] := by
  have notItems : "$ref" ≠ "items" := by decide
  rw [legacyType, List.map_singleton, if_neg notItems, relinked, definition?_reference]

theorem legacyType_array (items : Json) :
    legacyType (.object [("type", .text "array"), ("items", items)]) =
      .object [("type", .text "array"), ("items", items.relinked "$ref")] :=
  rfl

end Json

theorem TypeRef.legacyType_v2 (type : TypeRef) :
    (Json.object type.v2).legacyType = .object type.legacy := by
  unfold TypeRef.v2 TypeRef.v2Element TypeRef.legacy
  cases type.array with
  | true =>
    cases type.isReference with
    | true =>
      simp only [if_true, Json.legacyType_array, Json.relinked, Json.definition?_reference]
    | false => rfl
  | false =>
    cases type.isReference with
    | true => exact Json.legacyType_reference type.name
    | false => rfl

/-! ### Parameters -/

namespace Parameter

theorem typePart_legacy (parameter : Parameter) :
    (Json.object parameter.legacy).typePart = .object parameter.type.legacy := by
  unfold legacy TypeRef.legacy
  cases parameter.type.array <;> cases parameter.allowableValues <;> rfl

theorem schemaPart_v2 (parameter : Parameter) :
    (Json.object parameter.v2).schemaPart = .object parameter.type.v2 := by
  unfold v2 v2Type TypeRef.v2 TypeRef.v2Element
  cases parameter.type.isReference <;> cases parameter.type.array <;>
    cases parameter.allowMultiple <;> cases parameter.allowableValues <;> rfl

theorem values_agree (parameter : Parameter) :
    (Json.get? (.object parameter.legacy) "allowableValues").map (·.get? "values") =
      (Json.get? (.object parameter.v2) "enum").map some := by
  unfold legacy TypeRef.legacy v2 v2Type TypeRef.v2 TypeRef.v2Element
  cases parameter.type.isReference <;> cases parameter.type.array <;>
    cases parameter.allowMultiple <;> cases parameter.allowableValues <;> rfl

theorem sameParameter (parameter : Parameter) :
    SameParameter (.object parameter.legacy) (.object parameter.v2) where
  name := ⟨_, rfl, rfl⟩
  description := ⟨_, rfl, rfl⟩
  required := ⟨_, rfl, rfl⟩
  location := ⟨_, rfl, rfl⟩
  values := parameter.values_agree
  type := by rw [typePart_legacy, schemaPart_v2, TypeRef.legacyType_v2]

end Parameter

/-! ### Error messages -/

variable {load : Settings.Loaded}

theorem ErrorMessage.sameError {error : ErrorMessage} {response : Json}
    (written : error.v2 load = .ok response) : SameError load error.legacy response := by
  unfold ErrorMessage.v2 at written
  unfold ErrorMessage.legacy
  cases model : error.responseModel with
  | none =>
    rw [model] at written
    obtain rfl := Except.ok.inj written
    exact ⟨⟨_, rfl, rfl⟩, fun _ => rfl, nofun⟩
  | some raw =>
    simp only [model] at written
    split at written
    · rename_i type read
      obtain rfl := Except.ok.inj written
      refine ⟨⟨_, rfl, rfl⟩, nofun, ?_⟩
      rintro _ ⟨⟩
      exact ⟨raw, type, rfl, read, rfl⟩
    · cases written

namespace Operation

variable {operation : Operation}

theorem sameErrors {responses : Fields Json} (gathered : operation.responses load = .ok responses) :
    SameErrors load (operation.errorMessages.map ErrorMessage.legacy) (.object responses) where
  last := by
    intro key response notDefault found
    rcases get?_addResponses gathered key with
      ⟨error, own, isLast, written, foundOwn⟩ | ⟨_, kept⟩
    · obtain rfl := Option.some.inj (found.symm.trans foundOwn)
      refine ⟨error.legacy, ?_, ErrorMessage.sameError written⟩
      rw [List.filter_map, List.getLast?_map]
      exact congrArg (Option.map ErrorMessage.legacy) isLast
    · have absent : Fields.get? [("default", operation.defaultResponse)] key = none := by
        rw [Fields.get?, if_neg notDefault.symm, Fields.get?]
      rw [absent] at kept
      exact absurd (found.symm.trans kept) (by simp)
  coded := by
    intro message member
    obtain ⟨error, listed, rfl⟩ := List.mem_map.mp member
    refine ⟨error.code, rfl, toString_code_ne_default error.code, ?_⟩
    rcases get?_addResponses gathered (toString error.code) with
      ⟨_, response, _, _, found⟩ | ⟨none, _⟩
    · exact ⟨response, found⟩
    · have inFilter : error ∈ operation.errorMessages.filter
          (toString ·.code == toString error.code) :=
        List.mem_filter.mpr ⟨listed, beq_self_eq_true _⟩
      rw [none] at inFilter
      exact absurd inFilter List.not_mem_nil

theorem get?_responses_default {responses : Fields Json}
    (gathered : operation.responses load = .ok responses) :
    responses.get? "default" = some operation.defaultResponse := by
  rcases get?_addResponses gathered "default" with ⟨error, _, isLast, _⟩ | ⟨_, kept⟩
  · have coded := (List.mem_filter.mp (List.mem_of_getLast? isLast)).2
    exact absurd (beq_iff_eq.mp coded) (toString_code_ne_default error.code)
  · exact kept

/-! ### Operations -/

theorem httpMethod_of_endpoint {path method : String}
    (located : operation.endpoint = .ok (path, method)) : operation.httpMethod = some method := by
  unfold endpoint at located
  split at located
  · rename_i given
    rw [given]
    exact congrArg some (Prod.mk.inj (Except.ok.inj located)).2
  · cases located

theorem legacy_eq_ok {old : Json} (written : operation.legacy load = .ok old) :
    ∃ settings nickname path method, operation.endpoint = .ok (path, method) ∧
      old = .object ((operation.legacyFields settings nickname).putAll
        ((operation.responseType.map TypeRef.legacy).getD [])) := by
  unfold legacy at written
  split at written
  · cases written
  · cases written
  · rename_i nickname settings named
    obtain rfl := Except.ok.inj written
    cases located : operation.endpoint with
    | ok endpoint => exact ⟨settings, nickname, endpoint.1, endpoint.2, rfl, rfl⟩
    | error failure =>
      rw [Operation.nickname, located] at named
      cases named

/-- The response type takes the place of the type and adds items; no other field is touched. -/
theorem get?_legacy {fields : Fields Json} {name : String} (notType : name ≠ "type")
    (notItems : name ≠ "items") :
    (fields.putAll ((operation.responseType.map TypeRef.legacy).getD [])).get? name =
      fields.get? name := by
  apply Fields.get?_putAll_of_not_mem
  cases operation.responseType with
  | none => simp [Fields.names]
  | some type =>
    rw [Option.map_some, Option.getD_some, TypeRef.legacy]
    cases type.array <;> simp [Fields.names, notType, notItems]

theorem typePart_legacy (settings : Settings) (nickname : String) (operation : Operation) :
    (Json.object ((operation.legacyFields settings nickname).putAll
      ((operation.responseType.map TypeRef.legacy).getD []))).typePart =
      ((operation.defaultResponse.get? "schema").map Json.legacyType).getD
        (.object [("type", .text "void")]) := by
  unfold defaultResponse
  cases operation.responseType with
  | none => rfl
  | some type =>
    change (Json.object ((operation.legacyFields settings nickname).putAll type.legacy)).typePart =
      (Json.object type.v2).legacyType
    rw [TypeRef.legacyType_v2, TypeRef.legacy]
    cases type.array <;> rfl

/-- Whenever both documents of an operation are written they describe the same operation: under the
method in lower case, the same summary, parameters, response type and error responses. -/
theorem dialects_agree (load : Settings.Loaded) (operation : Operation) (old new : Json)
    (oldWritten : operation.legacy load = .ok old) (newWritten : operation.v2 load = .ok new) :
    ∃ method described, old.get? "httpMethod" = some (.text method) ∧
      new = .object [(Text.lowered method, described)] ∧ SameOperation load old described := by
  obtain ⟨settings, nickname, path, method, located, rfl⟩ := legacy_eq_ok oldWritten
  obtain ⟨responses, gathered, rfl⟩ := v2_eq_ok located newWritten
  have kept : ∀ name, name ≠ "type" → name ≠ "items" →
      Json.get? (.object ((operation.legacyFields settings nickname).putAll
        ((operation.responseType.map TypeRef.legacy).getD []))) name =
        (operation.legacyFields settings nickname).get? name :=
    fun name => get?_legacy
  refine ⟨method, .object (operation.v2Fields responses), ?_, rfl, ?_, ?_, ?_⟩
  · rw [kept _ (by decide) (by decide), legacyFields, httpMethod_of_endpoint located]
    rfl
  · exact ⟨_, kept _ (by decide) (by decide), rfl⟩
  · refine ⟨_, _, kept _ (by decide) (by decide), rfl, ?_⟩
    rw [List.forall₂_map_left_iff, List.forall₂_map_right_iff, List.forall₂_same]
    exact fun parameter _ => parameter.sameParameter
  · exact ⟨_, .object responses, _, kept _ (by decide) (by decide), rfl,
      get?_responses_default gathered, typePart_legacy settings nickname operation,
      sameErrors gathered⟩

/-- An operation with an array of references and two error messages of one code. -/
def widgetUpdate : Operation where
  api := ⟨some "Widgets", none⟩
  path := some "/widgets"
  httpMethod := some "PUT"
  summary := none
  notes := none
  parameters := [⟨"w", ⟨"Widget", true, .reference⟩, "", true, "body", true, some ["a"]⟩]
  responseType := some ⟨"Widget", false, .reference⟩
  errorMessages := [⟨404, "Gone", none⟩, ⟨404, "Missing", some "Error"⟩]
  modelNames := ["Widget"]

theorem dialects_agree_widgetUpdate :
    ∃ old described, widgetUpdate.legacy (.ok Settings.standard) = .ok old ∧
      widgetUpdate.v2 (.ok Settings.standard) = .ok (.object [("put", described)]) ∧
      old.get? "httpMethod" = some (.text "PUT") ∧
      old.get? "summary" = some (.text "Widgets") ∧
      described.get? "summary" = some (.text "Widgets") ∧
      SameOperation (.ok Settings.standard) old described := by
  obtain ⟨old, oldWritten, oldMethod, oldSummary⟩ :
      ∃ old, widgetUpdate.legacy (.ok Settings.standard) = .ok old ∧
        old.get? "httpMethod" = some (.text "PUT") ∧
        old.get? "summary" = some (.text "Widgets") :=
    ⟨_, rfl, rfl, rfl⟩
  obtain ⟨new, newWritten⟩ : ∃ new, widgetUpdate.v2 (.ok Settings.standard) = .ok new := ⟨_, rfl⟩
  obtain ⟨method, described, given, rfl, same⟩ := dialects_agree _ _ _ _ oldWritten newWritten
  obtain rfl : method = "PUT" := Json.text.inj (Option.some.inj (given.symm.trans oldMethod))
  obtain ⟨summary, oldShared, newShared⟩ := same.summary
  rw [Option.some.inj (oldShared.symm.trans oldSummary)] at newShared
  exact ⟨old, described, oldWritten, newWritten, oldMethod, oldSummary, newShared, same⟩

end Operation

end DocTags
