import DocTags.Parameter
import DocTags.Proofs.Text.Lowercase
import Mathlib.Data.List.Basic

/-!
# Types of parameters in shorthand

The type of a parameter in shorthand is its bracketed word in lower case, so the word hardly ever
names a model. It does so if one of its characters is in upper case and has no lower-case
counterpart, unless the settings list the word as a primitive type. The v2 document of a parameter
tells the two apart by its field names.
-/

namespace DocTags

theorem classify_lowered (settings : Settings) (name : String) :
    classify settings (Text.lowered name) = .primitive ↔
      Text.lowered name ∈ settings.primitiveTypes ∨
        ∀ c ∈ name.toList, ¬ Text.LastingCapital c := by
  have capital := Text.any_isUppercase_lowered name
  unfold classify
  split
  · rename_i listed
    exact iff_of_true rfl (.inl listed)
  · rename_i unlisted
    split
    · rename_i upper
      obtain ⟨c, member, lasting⟩ := capital.mp upper
      refine iff_of_false nofun ?_
      rintro (listed | none)
      · exact unlisted listed
      · exact none c member lasting
    · rename_i lower
      refine iff_of_true rfl (.inr fun c member lasting => ?_)
      exact lower (capital.mpr ⟨c, member, lasting⟩)

namespace Parameter

theorem mem_names_v2 (parameter : Parameter) :
    ("type" ∈ parameter.v2.names ↔ parameter.type.kind = .primitive) ∧
    ("schema" ∈ parameter.v2.names ↔ parameter.type.kind = .reference) := by
  unfold v2 v2Type TypeRef.v2 TypeRef.v2Element TypeRef.isReference
  cases parameter.type.kind with
  | primitive =>
    cases parameter.allowMultiple <;> cases parameter.type.array <;>
      cases parameter.allowableValues <;> simp [Fields.names]
  | reference => cases parameter.allowableValues <;> simp [Fields.names]

/-- The type of a parameter in shorthand is never an array. It is primitive, and stands in place in
the v2 document, exactly if the settings list the lower-cased word or lower-casing leaves none of
its characters in upper case; otherwise it refers to a model and stands in a schema. -/
theorem ofShorthand_primitive_iff (settings : Settings) (tag : Tag) (shorthand : Shorthand)
    (accepted : Shorthand.read tag.text = .ok shorthand) :
    ∃ parameter, ofShorthand (.ok settings) tag = .ok parameter ∧
      parameter.type.array = false ∧
      (parameter.type.kind = .primitive ↔
        Text.lowered shorthand.typeName ∈ settings.primitiveTypes ∨
          ∀ c ∈ shorthand.typeName.toList, ¬ Text.LastingCapital c) ∧
      ("type" ∈ parameter.v2.names ↔ parameter.type.kind = .primitive) ∧
      ("schema" ∈ parameter.v2.names ↔ parameter.type.kind = .reference) := by
  have read : ∃ parameter, ofShorthand (.ok settings) tag = .ok parameter ∧
      parameter.type = ⟨Text.lowered shorthand.typeName, false,
        classify settings (Text.lowered shorthand.typeName)⟩ := by
    simp only [ofShorthand, accepted, TypeRef.classified]
    exact ⟨_, rfl, rfl⟩
  obtain ⟨parameter, succeeded, type⟩ := read
  refine ⟨parameter, succeeded, ?_, ?_, parameter.mem_names_v2⟩
  · rw [type]
  · rw [type]
    exact classify_lowered settings shorthand.typeName

/-- The capital sigma becomes one of two characters here, and the dotted capital becomes two. -/
def street : Tag where
  tagName := "parameter_list"
  text := "[ΟΔΌΣİ] street Where to.\n[List] Ερμού"
  name := none
  types := []

theorem ofShorthand_primitive_iff_street :
    Shorthand.read street.text = .ok ⟨"ΟΔΌΣİ", "street", false, "Where to.", ["Ερμού"]⟩ ∧
    ∃ parameter, ofShorthand (.ok Settings.standard) street = .ok parameter ∧
      parameter.type.kind = .primitive ∧ "type" ∈ parameter.v2.names := by
  have accepted : Shorthand.read street.text =
      .ok ⟨"ΟΔΌΣİ", "street", false, "Where to.", ["Ερμού"]⟩ := by
    decide +kernel
  have lowered : "ΟΔΌΣİ".toList.any (fun c => decide (Text.LastingCapital c)) = false := by
    decide +kernel
  obtain ⟨parameter, succeeded, _, primitive, typed, _⟩ :=
    ofShorthand_primitive_iff Settings.standard street _ accepted
  have kind := primitive.mpr <| .inr fun c member lasting =>
    List.any_eq_false.mp lowered c member (decide_eq_true lasting)
  exact ⟨accepted, parameter, succeeded, kind, typed.mpr kind⟩

def share : Tag where
  tagName := "parameter_list"
  text := "[ℝ] ratio Share of the total.\n[List] 1"
  name := none
  types := []

theorem ofShorthand_reference_share :
    Shorthand.read share.text = .ok ⟨"ℝ", "ratio", false, "Share of the total.", ["1"]⟩ ∧
    ∃ parameter, ofShorthand (.ok Settings.standard) share = .ok parameter ∧
      parameter.type = ⟨"ℝ", false, .reference⟩ ∧
      "type" ∉ parameter.v2.names ∧ "schema" ∈ parameter.v2.names := by
  have accepted : Shorthand.read share.text =
      .ok ⟨"ℝ", "ratio", false, "Share of the total.", ["1"]⟩ := by
    decide +kernel
  have read : ofShorthand (.ok Settings.standard) share =
      .ok ⟨"ratio", ⟨"ℝ", false, .reference⟩, "Share of the total.", false, "query", false,
        some ["1"]⟩ := by
    decide +kernel
  exact ⟨accepted, _, read, rfl, by decide, by decide⟩

end Parameter

end DocTags
