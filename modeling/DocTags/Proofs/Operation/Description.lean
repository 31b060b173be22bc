import DocTags.Proofs.Operation.ParameterOrder
import DocTags.Proofs.Operation.Steps
import DocTags.Proofs.Text.Pieces

/-!
# What the tags of a declaration say about its operation

Path, method, summary, notes and response type come from the last tag of their kind; model names,
error messages and parameters are gathered from all tags in order. `Described` states this of any
list of tags and is kept by each step, so it holds of the operation that a declaration describes.
Parameters are then sorted, and the one for the response format comes last.
-/

namespace DocTags

def Tag.named (tags : List Tag) (name : String) : List Tag := tags.filter (·.tagName == name)

def Tag.contribution (load : Settings.Loaded) (tag : Tag) : Except Failure (List Parameter) :=
  match tag.tagName with
  | "path" => Operation.placeholderParameters load (PathTemplate.placeholders tag.text)
  | "parameter" => (Parameter.ofTag load tag).map ([·])
  | "parameter_list" => (Parameter.ofShorthand load tag).map ([·])
  | _ => .ok []

namespace Operation

/-- What tags say about an operation, its parameters apart. -/
structure Described (settings : Settings) (tags : List Tag) (operation : Operation) : Prop where
  path : operation.path = (Tag.named tags "path").getLast?.map (·.text)
  httpMethod : operation.httpMethod.map some = (Tag.named tags "path").getLast?.map (·.types.head?)
  summary : operation.summary = (Tag.named tags "summary").getLast?.map (·.text)
  notes : operation.notes = (Tag.named tags "notes").getLast?.map
    fun tag => settings.notesLineBreak.intercalate
      ((tag.text.toList.splitOn '\n').map String.ofList)
  responses : ∃ types : List TypeRef,
    (Tag.named tags "response_type").map (fun tag => TypeRef.ofTypes (.ok settings) tag.types) =
      types.map .ok ∧
    operation.responseType = types.getLast? ∧
    operation.modelNames = (types.filter (·.isReference)).map (·.name)
  errors : (Tag.named tags "error_message").map ErrorMessage.ofTag = operation.errorMessages.map .ok

/-- The parameters that tags contribute, in order. -/
def Contributed (load : Settings.Loaded) (tags : List Tag) (parameters : List Parameter) : Prop :=
  ∃ contributions : List (List Parameter),
    tags.map (·.contribution load) = contributions.map .ok ∧ parameters = contributions.flatten

variable {settings : Settings} {load : Settings.Loaded} {operation next : Operation} {tag : Tag}
  {before tags : List Tag}

theorem named_snoc_of_eq {name : String} (same : tag.tagName = name) :
    Tag.named (before ++ [tag]) name = Tag.named before name ++ [tag] := by
  simp [Tag.named, same]

theorem named_snoc_of_ne {name : String} (different : tag.tagName ≠ name) :
    Tag.named (before ++ [tag]) name = Tag.named before name := by
  simp [Tag.named, different]

theorem Takes.described (said : Described settings before operation)
    (takes : Takes (.ok settings) operation tag next) :
    Described settings (before ++ [tag]) next := by
  obtain ⟨path, httpMethod, summary, notes, ⟨types, read, responseType, modelNames⟩, errors⟩ := said
  have others : ∀ {own name : String}, tag.tagName = own → own ≠ name →
      Tag.named (before ++ [tag]) name = Tag.named before name :=
    fun named different => named_snoc_of_ne (named ▸ different)
  cases takes with
  | path named typed _ =>
    refine ⟨?_, ?_, ?_, ?_, ⟨types, ?_, responseType, modelNames⟩, ?_⟩
    · simp [named_snoc_of_eq named]
    · simp [named_snoc_of_eq named, typed]
    all_goals rw [others named (by decide)]; assumption
  | parameter named _ | shorthand named _ =>
    refine ⟨?_, ?_, ?_, ?_, ⟨types, ?_, responseType, modelNames⟩, ?_⟩
    all_goals rw [others named (by decide)]; assumption
  | @responseType type named typeRead =>
    refine ⟨?_, ?_, ?_, ?_, ⟨types ++ [type], ?_, ?_, ?_⟩, ?_⟩
    case refine_5 => rw [named_snoc_of_eq named]; simp [read, typeRead]
    case refine_6 => simp [setResponseType]
    case refine_7 =>
      rw [setResponseType, modelNames, List.filter_append, List.map_append]
      cases isReference : type.isReference
      · simp [TypeRef.modelName?, isReference]
      · simp [TypeRef.modelName?, isReference]
    all_goals rw [others named (by decide)]; assumption
  | errorMessage named errorRead =>
    refine ⟨?_, ?_, ?_, ?_, ⟨types, ?_, responseType, modelNames⟩, ?_⟩
    case refine_6 => rw [named_snoc_of_eq named]; simp [errors, errorRead]
    all_goals rw [others named (by decide)]; assumption
  | summary named =>
    refine ⟨?_, ?_, ?_, ?_, ⟨types, ?_, responseType, modelNames⟩, ?_⟩
    case refine_3 => simp [named_snoc_of_eq named]
    all_goals rw [others named (by decide)]; assumption
  | notes named loaded =>
    obtain rfl := Except.ok.inj loaded
    refine ⟨?_, ?_, ?_, ?_, ⟨types, ?_, responseType, modelNames⟩, ?_⟩
    case refine_4 => simp [named_snoc_of_eq named, Text.replaceLineBreaks_eq_intercalate]
    all_goals rw [others named (by decide)]; assumption
  | unrecognized unknown =>
    have foreign : ∀ name ∈ TagRole.recognized, tag.tagName ≠ name :=
      fun name member same => unknown (same ▸ member)
    refine ⟨?_, ?_, ?_, ?_, ⟨types, ?_, responseType, modelNames⟩, ?_⟩
    all_goals rw [named_snoc_of_ne (foreign _ (by decide))]; assumption

theorem Takes.contribution (takes : Takes load operation tag next) :
    ∃ added, tag.contribution load = .ok added ∧
      next.parameters = operation.parameters ++ added := by
  cases takes with
  | path named _ read => exact ⟨_, by rw [Tag.contribution, named]; exact read, rfl⟩
  | parameter named read | shorthand named read =>
    exact ⟨_, by rw [Tag.contribution, named]; simp only [read]; rfl, rfl⟩
  | responseType named _ | errorMessage named _ | summary named | notes named _ =>
    exact ⟨[], by simp [Tag.contribution, named], (List.append_nil _).symm⟩
  | unrecognized unknown =>
    refine ⟨[], ?_, (List.append_nil _).symm⟩
    unfold Tag.contribution
    split
    all_goals simp_all [TagRole.recognized]

theorem Takes.contributed (contributed : Contributed load before operation.parameters)
    (takes : Takes load operation tag next) :
    Contributed load (before ++ [tag]) next.parameters := by
  obtain ⟨contributions, read, parameters⟩ := contributed
  obtain ⟨added, readAdded, extended⟩ := takes.contribution
  refine ⟨contributions ++ [added], ?_, ?_⟩
  · simp [read, readAdded]
  · simp [extended, parameters]

theorem Takes.api (takes : Takes load operation tag next) : next.api = operation.api := by
  cases takes <;> rfl

/-! ### The operation of a declaration -/

theorem described_ofApi (settings : Settings) (api : ApiContext) :
    Described settings [] (ofApi api) :=
  ⟨rfl, rfl, rfl, rfl, ⟨[], rfl, rfl, rfl⟩, rfl⟩

theorem Gathers.api {api : ApiContext} (run : Gathers load (ofApi api) tags next) :
    next.api = api :=
  run.invariant (fun _ operation => operation.api = api) [] rfl
    fun _ _ _ _ kept takes => takes.api.trans kept

theorem Gathers.described {api : ApiContext} (run : Gathers (.ok settings) (ofApi api) tags next) :
    Described settings tags next :=
  run.invariant (Described settings) [] (described_ofApi settings api)
    fun _ _ _ _ said takes => takes.described said

theorem Gathers.contributed {api : ApiContext} (run : Gathers load (ofApi api) tags next) :
    Contributed load tags next.parameters :=
  run.invariant (fun tags operation => Contributed load tags operation.parameters) []
    ⟨[], rfl, rfl⟩ fun _ _ _ _ contributed takes => takes.contributed contributed

theorem Described.withParameters {parameters : List Parameter}
    (said : Described settings tags operation) :
    Described settings tags { operation with parameters := parameters } :=
  ⟨said.path, said.httpMethod, said.summary, said.notes, said.responses, said.errors⟩

theorem described_of_built {declaration : Declaration} {api : ApiContext}
    (built : (ofDeclaration load declaration api).result = .ok operation) :
    ∃ settings, load = .ok settings ∧ Described settings declaration.tags operation := by
  obtain ⟨gathered, format, run, formatted, rfl⟩ := ofDeclaration_gathers built
  cases load with
  | error fault => cases formatted
  | ok settings => exact ⟨settings, rfl, run.described.withParameters⟩

/-- An operation is described by the tags of its declaration: each field that holds one value comes
from the last tag of its kind, each list from all tags in order. Its parameters are the only stable
sort of those that the tags contribute, with the one for the response format after them. -/
theorem ofDeclaration_described (settings : Settings) (declaration : Declaration) (api : ApiContext)
    (operation : Operation)
    (built : (ofDeclaration (.ok settings) declaration api).result = .ok operation) :
    operation.api = api ∧ Described settings declaration.tags operation ∧
    ∃ contributed sorted format, Contributed (.ok settings) declaration.tags contributed ∧
      StableSort contributed sorted ∧ (∀ other, StableSort contributed other → other = sorted) ∧
      Parameter.format (.ok settings) = .ok format ∧ operation.parameters = sorted ++ [format] := by
  obtain ⟨gathered, format, run, formatRead, rfl⟩ := ofDeclaration_gathers built
  have sorted := Parameter.mergeSort_stableSort gathered.parameters
  refine ⟨run.api, run.described.withParameters, _, _, format, run.contributed, sorted, ?_,
    formatRead, rfl⟩
  exact fun other otherSorted => otherSorted.unique sorted

/-- A method with two paths, two parameters of one name and notes of three lines. -/
def repeatedName : Declaration where
  type := "method"
  tags :=
    [⟨"path", "/{b}/{a}.{format_type}", none, ["GET"]⟩, ⟨"parameter", "Again.", some "a", ["T"]⟩,
     ⟨"notes", "Slow.\n\nCached.", none, []⟩, ⟨"response_type", "", none, ["T"]⟩,
     ⟨"path", "/c", none, ["PUT"]⟩]
  path := none

theorem ofDeclaration_described_repeatedName :
    ∃ operation,
      (ofDeclaration (.ok ⟨["string"], [], "<br>", []⟩) repeatedName ⟨none, none⟩).result =
        .ok operation ∧
      Described ⟨["string"], [], "<br>", []⟩ repeatedName.tags operation ∧
      operation.path = some "/c" ∧ operation.httpMethod = some "PUT" ∧
      operation.notes = some "Slow.<br><br>Cached." ∧
      operation.parameters.map (fun parameter => (parameter.name, parameter.location)) =
        [("a", "path"), ("a", "query"), ("b", "path"), ("format_type", "path")] := by
  have built :
      (ofDeclaration (.ok ⟨["string"], [], "<br>", []⟩) repeatedName ⟨none, none⟩).result =
      .ok
        { api := ⟨none, none⟩
          path := some "/c"
          httpMethod := some "PUT"
          summary := none
          notes := some "Slow.<br><br>Cached."
          parameters :=
            List.mergeSort
              [⟨"b", ⟨"string", false, .primitive⟩, "Scope response to b", true, "path", false,
                none⟩,
               ⟨"a", ⟨"string", false, .primitive⟩, "Scope response to a", true, "path", false,
                none⟩,
               ⟨"a", ⟨"T", false, .reference⟩, "Again.", false, "query", false, none⟩]
              Parameter.namesInOrder ++
            [⟨"format_type", ⟨"string", false, .primitive⟩, "Response format either JSON or XML",
              true, "path", false, some []⟩]
          responseType := some ⟨"T", false, .reference⟩
          errorMessages := []
          modelNames := ["T"] } := rfl
  refine ⟨_, built, (ofDeclaration_described _ _ _ _ built).2.1, rfl, rfl, rfl, ?_⟩
  simp [List.mergeSort, Parameter.namesInOrder, Text.notAfter]

end Operation

end DocTags
