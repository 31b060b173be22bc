import DocTags.Proofs.Operation.Malformed

/-!
# What a tag can change

A malformed tag changes nothing about an operation, whatever was said before. A tag that goes
through changes the fields that its kind speaks of: it sets one or two of them, or adds to the end
of a list, and leaves every other field as it was.
-/

namespace DocTags.Operation

/-- What tags with a given name may change on the way from one operation to the next. -/
def Footprint (operation next : Operation) : String → Prop
  | "path" => ∃ text method added, next =
      { operation with
        path := some text
        httpMethod := some method
        parameters := operation.parameters ++ added }
  | "parameter" | "parameter_list" => ∃ parameter, next =
      { operation with parameters := operation.parameters ++ [parameter] }
  | "response_type" => ∃ type names, names.length ≤ 1 ∧ next =
      { operation with
        responseType := some type
        modelNames := operation.modelNames ++ names }
  | "error_message" => ∃ error, next =
      { operation with errorMessages := operation.errorMessages ++ [error] }
  | "summary" => ∃ text, next = { operation with summary := some text }
  | "notes" => ∃ text, next = { operation with notes := some text }
  | _ => next = operation

variable {load : Settings.Loaded} {operation next : Operation} {tag : Tag}

theorem length_modelName?_le (type : TypeRef) : type.modelName?.toList.length ≤ 1 := by
  cases type.modelName? <;> simp

theorem footprint_of_unrecognized {name : String} (unknown : name ∉ TagRole.recognized) :
    Footprint operation operation name := by
  unfold Footprint
  split
  all_goals simp_all [TagRole.recognized]

theorem Takes.footprint (takes : Takes load operation tag next) :
    Footprint operation next tag.tagName := by
  cases takes with
  | path named _ _ =>
    rw [named]
    exact ⟨_, _, _, rfl⟩
  | parameter named _ | shorthand named _ | errorMessage named _ | summary named | notes named _ =>
    rw [named]
    exact ⟨_, rfl⟩
  | @responseType type named _ =>
    rw [named]
    exact ⟨type, _, length_modelName?_le type, rfl⟩
  | unrecognized unknown => exact footprint_of_unrecognized unknown

/-- A tag that is refused leaves every field of the operation as it was, and the refusal is that of
a malformed tag. A tag that is taken in changes no more than the footprint of its kind. -/
theorem applyTag_footprint (settings : Settings) (operation : Operation) (tag : Tag) :
    (∀ failure, (operation.applyTag (.ok settings) tag).failure = some failure →
      (operation.applyTag (.ok settings) tag).state = operation ∧
      ∃ error, failure = .tag error ∧ error.kind = .malformedTag) ∧
    ((operation.applyTag (.ok settings) tag).failure = none →
      Footprint operation (operation.applyTag (.ok settings) tag).state tag.tagName) := by
  constructor
  · intro failure failed
    by_cases malformed : tag.Malformed
    · obtain ⟨cause, faulty⟩ := malformed
      obtain ⟨known, _, stopped⟩ := applyTag_faulty (.ok settings) operation faulty
      rw [stopped] at failed ⊢
      exact ⟨rfl, _, (Option.some.inj failed).symm, faulty.kind⟩
    · -- With settings at hand nothing else can go wrong.
      rw [passes_of_sound settings malformed operation] at failed
      cases failed
  · intro through
    exact (applyTag_takes through).footprint

/-- An operation of which a path and a response are known. -/
def draft : Operation :=
  { ofApi ⟨none, none⟩ with
    path := some "/widgets"
    httpMethod := some "GET"
    responseType := some ⟨"Widget", true, .reference⟩
    modelNames := ["Widget"] }

def relocating (types : List String) : Tag := ⟨"path", "/widgets/{id}", none, types⟩

theorem applyTag_footprint_relocating :
    (∃ failure, (draft.applyTag (.ok .standard) (relocating [])).failure = some failure ∧
      (draft.applyTag (.ok .standard) (relocating [])).state = draft ∧
      ∃ error, failure = .tag error ∧ error.kind = .malformedTag) ∧
    (draft.applyTag (.ok .standard) (relocating ["PUT"])).failure = none ∧
    (draft.applyTag (.ok .standard) (relocating ["PUT"])).state ≠ draft ∧
    ∃ text method added, (draft.applyTag (.ok .standard) (relocating ["PUT"])).state =
      { draft with
        path := some text
        httpMethod := some method
        parameters := draft.parameters ++ added } := by
  have refused := (applyTag_footprint .standard draft (relocating [])).1
  have taken := (applyTag_footprint .standard draft (relocating ["PUT"])).2
  refine ⟨⟨_, rfl, refused _ rfl⟩, rfl, ?_, taken rfl⟩
  intro same
  have path : some "/widgets/{id}" = some "/widgets" := congrArg Operation.path same
  exact absurd path (by decide)

end DocTags.Operation
