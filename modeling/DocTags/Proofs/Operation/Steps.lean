import DocTags.Operation.Basic

/-!
# Taking in tags, step by step

`Takes` says what one tag that goes through does to an operation, kind by kind, and `Gathers` chains
such steps over a list of tags. `ofDeclaration_gathers` takes a built operation apart into the
steps, the sorting and the parameter for the response format.
-/

namespace DocTags

def TagRole.recognized : List String :=
  ["path", "parameter", "parameter_list", "response_type", "error_message", "summary", "notes"]

/-- The name of the tags with a given role, where there is only one. -/
def TagRole.tagName? : TagRole → Option String
  | .path => some "path"
  | .parameter => some "parameter"
  | .shorthand => some "parameter_list"
  | .responseType => some "response_type"
  | .errorMessage => some "error_message"
  | .summary => some "summary"
  | .notes => some "notes"
  | .unrecognized => none

theorem Tag.tagName_of_role {tag : Tag} {name : String} (named : tag.role.tagName? = some name) :
    tag.tagName = name := by
  unfold Tag.role TagRole.ofName at named
  split at named
  all_goals simp_all [TagRole.tagName?]

theorem Tag.not_recognized_of_role {tag : Tag} (role : tag.role = .unrecognized) :
    tag.tagName ∉ TagRole.recognized := by
  unfold Tag.role TagRole.ofName at role
  split at role
  all_goals simp_all [TagRole.recognized]

theorem TagRole.ofName_tagName {role : TagRole} {name : String}
    (named : role.tagName? = some name) : TagRole.ofName name = role := by
  cases role
  all_goals cases named
  all_goals rfl

theorem TagRole.mem_recognized {role : TagRole} {name : String}
    (named : role.tagName? = some name) : name ∈ TagRole.recognized := by
  cases role
  all_goals cases named
  all_goals decide

theorem Tag.role_of_tagName {tag : Tag} {name : String} (role : TagRole)
    (named : tag.tagName = name) (own : role.tagName? = some name) : tag.role = role := by
  rw [Tag.role, named, TagRole.ofName_tagName own]

theorem Tag.tagName_eq {tag : Tag} {role : TagRole} {name : String} (isRole : tag.role = role)
    (own : role.tagName? = some name) : tag.tagName = name :=
  Tag.tagName_of_role (isRole ▸ own)

namespace Operation

/-- What a tag that goes through does to an operation. -/
inductive Takes (load : Settings.Loaded) (operation : Operation) (tag : Tag) :
    Operation → Prop where
  | path {method : String} {others : List String} {parameters : List Parameter}
      (named : tag.tagName = "path") (types : tag.types = method :: others)
      (read : placeholderParameters load (PathTemplate.placeholders tag.text) = .ok parameters) :
      Takes load operation tag
        { operation with
          path := some tag.text
          httpMethod := some method
          parameters := operation.parameters ++ parameters }
  | parameter {parameter : Parameter} (named : tag.tagName = "parameter")
      (read : Parameter.ofTag load tag = .ok parameter) :
      Takes load operation tag (operation.addParameters [parameter])
  | shorthand {parameter : Parameter} (named : tag.tagName = "parameter_list")
      (read : Parameter.ofShorthand load tag = .ok parameter) :
      Takes load operation tag (operation.addParameters [parameter])
  | responseType {type : TypeRef} (named : tag.tagName = "response_type")
      (read : TypeRef.ofTypes load tag.types = .ok type) :
      Takes load operation tag (operation.setResponseType type)
  | errorMessage {error : ErrorMessage} (named : tag.tagName = "error_message")
      (read : ErrorMessage.ofTag tag = .ok error) :
      Takes load operation tag
        { operation with errorMessages := operation.errorMessages ++ [error] }
  | summary (named : tag.tagName = "summary") :
      Takes load operation tag { operation with summary := some tag.text }
  | notes {settings : Settings} (named : tag.tagName = "notes") (loaded : load = .ok settings) :
      Takes load operation tag
        { operation with notes := some (Text.replaceLineBreaks settings.notesLineBreak tag.text) }
  | unrecognized (unknown : tag.tagName ∉ TagRole.recognized) : Takes load operation tag operation

variable {load : Settings.Loaded} {operation mid last : Operation} {tag : Tag} {tags : List Tag}

theorem orStop_through {α : Type} {value : Except Failure α} {next : α → Operation}
    (through : (operation.orStop value next).failure = none) :
    ∃ result, value = .ok result ∧ (operation.orStop value next).state = next result := by
  cases value with
  | ok result => exact ⟨result, rfl, rfl⟩
  | error failure => cases through

theorem applyPath_through (named : tag.tagName = "path")
    (through : (operation.applyPath load tag).failure = none) :
    Takes load operation tag (operation.applyPath load tag).state := by
  unfold applyPath at through ⊢
  split at through
  · cases through
  · rename_i method others types
    split at through
    · rename_i parameters read
      exact .path named types read
    · cases through

theorem applyTag_takes (through : (operation.applyTag load tag).failure = none) :
    Takes load operation tag (operation.applyTag load tag).state := by
  have named : ∀ name, tag.role.tagName? = some name → tag.tagName = name :=
    fun _ => Tag.tagName_of_role
  unfold applyTag at through ⊢
  cases role : tag.role with
  | path =>
    rw [role] at through named
    exact applyPath_through (named _ rfl) through
  | parameter =>
    rw [role] at through named
    obtain ⟨parameter, read, state⟩ := orStop_through through
    rw [state]
    exact .parameter (named _ rfl) read
  | shorthand =>
    rw [role] at through named
    obtain ⟨parameter, read, state⟩ := orStop_through through
    rw [state]
    exact .shorthand (named _ rfl) read
  | responseType =>
    rw [role] at through named
    obtain ⟨type, read, state⟩ := orStop_through through
    rw [state]
    exact .responseType (named _ rfl) read
  | errorMessage =>
    rw [role] at through named
    obtain ⟨error, read, state⟩ := orStop_through through
    rw [state]
    exact .errorMessage (named _ rfl) read
  | summary =>
    rw [role] at named
    exact .summary (named _ rfl)
  | notes =>
    rw [role] at through named
    cases load with
    | ok settings => exact .notes (named _ rfl) rfl
    | error fault => cases through
  | unrecognized => exact .unrecognized (Tag.not_recognized_of_role role)

/-! ### Lists of tags -/

/-- What tags that all go through do to an operation. -/
inductive Gathers (load : Settings.Loaded) : Operation → List Tag → Operation → Prop where
  | nil (operation : Operation) : Gathers load operation [] operation
  | cons {operation mid last : Operation} {tag : Tag} {tags : List Tag}
      (takes : Takes load operation tag mid) (rest : Gathers load mid tags last) :
      Gathers load operation (tag :: tags) last

/-- What every step keeps, its tag added to those taken in before, holds at the end of a run. -/
theorem Gathers.invariant (holds : List Tag → Operation → Prop) (before : List Tag)
    (run : Gathers load operation tags last) (start : holds before operation)
    (step : ∀ before operation tag next, holds before operation →
      Takes load operation tag next → holds (before ++ [tag]) next) :
    holds (before ++ tags) last := by
  induction run generalizing before with
  | nil operation =>
    rw [List.append_nil]
    exact start
  | @cons operation mid last tag tags takes rest ih =>
    rw [List.append_cons]
    exact ih _ (step before operation tag mid start takes)

theorem applyTags_gathers (through : (operation.applyTags load tags).failure = none) :
    Gathers load operation tags (operation.applyTags load tags).state := by
  induction tags generalizing operation with
  | nil => exact .nil operation
  | cons tag tags ih =>
    unfold applyTags Outcome.andThen at through ⊢
    cases first : (operation.applyTag load tag).failure with
    | some failure => simp [Outcome.mapFailure, first] at through
    | none =>
      simp only [Outcome.mapFailure, first, Option.map_none] at through ⊢
      exact .cons (applyTag_takes first) (ih through)

/-- A built operation has taken in all tags of its declaration; then its parameters were sorted and
the one for the response format was added. -/
theorem ofDeclaration_gathers {declaration : Declaration} {api : ApiContext}
    (built : (ofDeclaration load declaration api).result = .ok operation) :
    ∃ gathered format, Gathers load (ofApi api) declaration.tags gathered ∧
      Parameter.format load = .ok format ∧
      operation = gathered.sortParameters.addParameters [format] := by
  unfold ofDeclaration at built
  dsimp only at built
  split at built
  · cases built
  · rename_i through
    split at built
    · cases built
    · rename_i formatted
      obtain ⟨format, read, state⟩ := orStop_through formatted
      refine ⟨_, format, applyTags_gathers through, read, ?_⟩
      rw [← state]
      exact (Except.ok.inj built).symm

end Operation

end DocTags
