import DocTags.Model.Document
import DocTags.Proofs.Model.Reachability

/-!
# Documents refer to nothing outside

A reference in a v2 document is a field `$ref` somewhere inside it. Every reference in the document
of a model, or of a model behind a name that it reaches, is to the model itself or to a name that it
reaches.
-/

namespace DocTags

/-- A field with the given name and value stands somewhere in a JSON value, however deep. -/
inductive Json.Occurs (name : String) (value : Json) : Json → Prop where
  | here {fields : List (String × Json)} (member : (name, value) ∈ fields) :
      Occurs name value (.object fields)
  | inField {fields : List (String × Json)} {other : String} {child : Json}
      (member : (other, child) ∈ fields) (inside : Occurs name value child) :
      Occurs name value (.object fields)
  | inItem {items : List Json} {item : Json} (member : item ∈ items)
      (inside : Occurs name value item) : Occurs name value (.array items)

/-- A document holds a reference to the definition of a model. -/
def Json.Targets (document : Json) (name : String) : Prop :=
  Occurs "$ref" (.text ("#/definitions/" ++ name)) document

namespace Json

variable {name : String} {value : Json}

theorem not_occurs_text {text : String} : ¬ Occurs name value (.text text) :=
  nofun

theorem not_occurs_texts {texts : List String} : ¬ Occurs name value (.texts texts) := by
  intro occurs
  cases occurs with
  | inItem member inside =>
    obtain ⟨text, _, rfl⟩ := List.mem_map.mp member
    exact not_occurs_text inside

theorem occurs_object {fields : List (String × Json)} :
    Occurs name value (.object fields) ↔
      (name, value) ∈ fields ∨ ∃ field ∈ fields, Occurs name value field.2 := by
  constructor
  · intro occurs
    cases occurs with
    | here member => exact .inl member
    | inField member inside => exact .inr ⟨_, member, inside⟩
  · rintro (member | ⟨field, member, inside⟩)
    · exact .here member
    · exact .inField member inside

end Json

variable {name : String}

theorem TypeRef.targets_v2Element (type : TypeRef) :
    (Json.object type.v2Element).Targets name ↔ type.modelName? = some name := by
  unfold Json.Targets TypeRef.v2Element TypeRef.modelName?
  rw [Json.occurs_object]
  split
  · simp [Json.not_occurs_text, eq_comm]
  · simp [Json.not_occurs_text]

theorem TypeRef.targets_v2 (type : TypeRef) :
    (Json.object type.v2).Targets name ↔ type.modelName? = some name := by
  rw [← type.targets_v2Element]
  unfold TypeRef.v2
  split
  · unfold Json.Targets
    rw [Json.occurs_object]
    simp [Json.not_occurs_text]
  · rfl

/-- A description holds no reference, whatever it says. -/
theorem Property.targets_v2 (property : Property) :
    (Json.object property.v2).Targets name ↔ property.modelName? = some name := by
  have described : ∀ field ∈ property.descriptionFields,
      field.1 = "description" ∧ ∃ text, field.2 = .text text := by
    intro field member
    unfold Property.descriptionFields at member
    split at member
    · rw [List.mem_singleton.mp member]
      exact ⟨rfl, _, rfl⟩
    · exact absurd member List.not_mem_nil
  rw [Property.modelName?, ← TypeRef.targets_v2]
  unfold Json.Targets Property.v2
  rw [Json.occurs_object, Json.occurs_object]
  constructor
  · rintro (member | ⟨field, member, inside⟩)
    · rcases List.mem_append.mp member with typed | description
      · exact .inl typed
      · exact absurd (described _ description).1 (show "$ref" ≠ "description" by decide)
    · rcases List.mem_append.mp member with typed | description
      · exact .inr ⟨field, typed, inside⟩
      · obtain ⟨_, text, same⟩ := described _ description
        rw [same] at inside
        exact absurd inside Json.not_occurs_text
  · rintro (member | ⟨field, member, inside⟩)
    · exact .inl (List.mem_append_left _ member)
    · exact .inr ⟨field, List.mem_append_left _ member, inside⟩

namespace Model

variable {models : List Model} {model : Model}

theorem mem_referencedNames :
    name ∈ model.referencedNames ↔
      ∃ property ∈ model.properties, property.modelName? = some name := by
  rw [referencedNames, List.mem_eraseDups, List.mem_filterMap]

/-- The document of a model refers only to names that the model refers to. A property that another
of its name has displaced may be missing from it. -/
theorem mem_referencedNames_of_targets (targets : model.v2.Targets name) :
    name ∈ model.referencedNames := by
  unfold v2 at targets
  rcases Json.occurs_object.mp targets with member | ⟨field, member, inside⟩
  · simp at member
  · rcases List.mem_cons.mp member with rfl | required
    · rcases Json.occurs_object.mp inside with written | ⟨⟨key, document⟩, written, inside⟩
      · obtain ⟨property, _, same⟩ := List.mem_map.mp (Fields.mem_of_mem_ofList written)
        exact absurd (congrArg Prod.snd same) (by simp)
      · obtain ⟨property, member, same⟩ := List.mem_map.mp (Fields.mem_of_mem_ofList written)
        obtain ⟨rfl, rfl⟩ := Prod.mk.inj same
        exact mem_referencedNames.mpr ⟨property, member, property.targets_v2.mp inside⟩
    · rw [List.mem_singleton.mp required] at inside
      exact absurd inside Json.not_occurs_texts

/-- Every reference in the document of a model, and in the document of the first model under each
name that it reaches, is to the model's own id or to a name that it reaches. -/
theorem v2_references_closed (model : Model) (models : List Model) :
    (∀ name, model.v2.Targets name →
      some name = model.id ∨ name ∈ model.reachableNames models) ∧
    (∀ reached ∈ model.reachableNames models, ∀ other, find? models reached = some other →
      ∀ name, other.v2.Targets name →
        some name = model.id ∨ name ∈ model.reachableNames models) := by
  constructor
  · intro name targets
    by_cases own : some name = model.id
    · exact .inl own
    · exact .inr (mem_reachableNames_of_referenced (mem_referencedNames_of_targets targets) own)
  · intro reached listed other found name targets
    by_cases own : some name = model.id
    · exact .inl own
    · have refers : Refers models reached name :=
        ⟨other, found, mem_referencedNames_of_targets targets⟩
      exact .inr (mem_reachableNames_of_refers listed refers own)

theorem v2_references_closed_cycle :
    "B" ∈ (referring "A" ["B"]).reachableNames [referring "A" ["B"], referring "B" ["A", "C"]] ∧
    (referring "B" ["A", "C"]).v2.Targets "C" ∧
    (some "C" = some "A" ∨
      "C" ∈ (referring "A" ["B"]).reachableNames
        [referring "A" ["B"], referring "B" ["A", "C"]]) := by
  have listed : "B" ∈ (referring "A" ["B"]).reachableNames
      [referring "A" ["B"], referring "B" ["A", "C"]] := by decide
  have found : find? [referring "A" ["B"], referring "B" ["A", "C"]] "B" =
      some (referring "B" ["A", "C"]) := by decide
  have targets : (referring "B" ["A", "C"]).v2.Targets "C" :=
    .inField (.head _) (.inField (.tail _ (.head _)) (.here (.head _)))
  exact ⟨listed, targets, (v2_references_closed _ _).2 "B" listed _ found "C" targets⟩

end Model

end DocTags
