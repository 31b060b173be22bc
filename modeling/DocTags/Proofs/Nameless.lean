import DocTags.Proofs.Model.Tags

/-!
# Tags without a name

A property or a parameter is refused if its tag has no name slot or an empty one. What the slot
holds is not asked: where nothing but blanks stands before its first parenthesis the tag is read
like any other, and the name that comes out is empty.
-/

namespace DocTags

namespace NameSlot

/-- Nothing but blanks stands before the first parenthesis. -/
def Nameless (raw : String) : Prop :=
  ∀ c ∈ raw.toList.takeWhile (!isParenthesis ·), Text.isBlank c = true

instance (raw : String) : Decidable (Nameless raw) :=
  List.decidableBAll (fun c => Text.isBlank c = true) (raw.toList.takeWhile (!isParenthesis ·))

theorem name_eq_empty_iff (raw : String) : (read raw).name = "" ↔ Nameless raw := by
  have listed : (read raw).name.toList = Text.trim (raw.toList.takeWhile (!isParenthesis ·)) := by
    rw [read, String.toList_ofList]
  rw [← String.toList_eq_nil_iff, listed, Text.trim_eq_nil_iff, Nameless]

end NameSlot

variable {load : Settings.Loaded} {tag : Tag}

theorem TypeRef.ofTypes_ok_iff {types : List String} :
    (∃ type, ofTypes load types = .ok type) ↔
      (∃ settings, load = .ok settings) ∧ ∀ cause, ¬ Faulty types cause := by
  constructor
  · rintro ⟨type, read⟩
    have sound : ∀ cause, ¬ Faulty types cause := by
      intro cause faulty
      rw [ofTypes_of_faulty load faulty] at read
      cases read
    refine ⟨?_, sound⟩
    cases load with
    | ok settings => exact ⟨settings, rfl⟩
    | error fault =>
      rw [(ofTypes_classifying sound).unloaded fault] at read
      cases read
  · rintro ⟨⟨settings, rfl⟩, sound⟩
    exact (ofTypes_classifying sound).loaded settings

/-- What becomes of a tag as far as its name is concerned. Without a name slot it is refused for the
cause `unnamed`. With one it is read if its first type can be, and the name is empty exactly if the
slot has none. -/
structure Tag.Naming {α : Type} (load : Settings.Loaded) (tag : Tag) (unnamed : TagError.Cause)
    (name : α → String) (result : Except Failure α) : Prop where
  missing : tag.name = none ∨ tag.name = some "" →
    result = .error (.tag ⟨.malformedTag, unnamed.message, some tag.tagName, none⟩)
  read : ∀ slot, tag.name = some slot → slot ≠ "" →
    ((∃ value, result = .ok value) ↔
      (∃ settings, load = .ok settings) ∧ ∀ cause, ¬ TypeRef.Faulty tag.types cause)
  name : ∀ slot value, tag.name = some slot → result = .ok value →
    (name value = "" ↔ NameSlot.Nameless slot)

/-- Readers that put a name and a type together. -/
theorem Tag.naming_of_build {α : Type} {unnamed : TagError.Cause} {name : α → String}
    {result : Except Failure α} (build : NameSlot → TypeRef → α)
    (kept : ∀ slot type, name (build slot type) = slot.name)
    (missing : tag.name = none ∨ tag.name = some "" →
      result = .error (.tag ⟨.malformedTag, unnamed.message, some tag.tagName, none⟩))
    (given : ∀ slot, tag.name = some slot → slot ≠ "" → ∀ value, result = .ok value ↔
      ∃ type, TypeRef.ofTypes load tag.types = .ok type ∧ build (NameSlot.read slot) type = value) :
    tag.Naming load unnamed name result := by
  refine ⟨missing, ?_, ?_⟩
  · intro slot named filled
    rw [← TypeRef.ofTypes_ok_iff]
    constructor
    · rintro ⟨value, read⟩
      obtain ⟨type, known, _⟩ := (given slot named filled value).mp read
      exact ⟨type, known⟩
    · rintro ⟨type, known⟩
      exact ⟨_, (given slot named filled _).mpr ⟨type, known, rfl⟩⟩
  · intro slot value named read
    have filled : slot ≠ "" := by
      rintro rfl
      rw [missing (.inr named)] at read
      cases read
    obtain ⟨type, _, rfl⟩ := (given slot named filled value).mp read
    rw [kept, NameSlot.name_eq_empty_iff]

theorem Property.naming (load : Settings.Loaded) (tag : Tag) :
    tag.Naming load .propertyWithoutName Property.name (Property.ofTag load tag) := by
  refine Tag.naming_of_build (fun slot type =>
    ⟨slot.name, type, Text.nonempty? tag.text, slot.options.contains "required"⟩)
    (fun _ _ => rfl) ?_ ?_
  · intro missing
    exact ofTag_of_faulty load (.withoutName missing)
  · intro slot named filled value
    simp only [ofTag, Tag.bind_nonempty?_of_named named filled]
    cases TypeRef.ofTypes load tag.types <;> simp

theorem Parameter.naming (load : Settings.Loaded) (tag : Tag) :
    tag.Naming load .parameterWithoutName Parameter.name (Parameter.ofTag load tag) := by
  refine Tag.naming_of_build (fun slot type =>
    ⟨slot.name, type, tag.text, slot.options.contains "required", locationOf slot.options,
      slot.options.contains "multiple", none⟩)
    (fun _ _ => rfl) ?_ ?_
  · intro missing
    exact ofTag_unnamed load missing
  · intro slot named filled value
    simp only [ofTag, Tag.bind_nonempty?_of_named named filled]
    cases TypeRef.ofTypes load tag.types <;> simp

/-- A property or a parameter without a name slot is refused. With a name slot it is read as soon as
its type and the settings allow it, and its name is empty exactly if nothing but blanks stands
before the first parenthesis of the slot. -/
theorem Tag.ofTag_naming (load : Settings.Loaded) (tag : Tag) :
    tag.Naming load .propertyWithoutName Property.name (Property.ofTag load tag) ∧
    tag.Naming load .parameterWithoutName Parameter.name (Parameter.ofTag load tag) :=
  ⟨Property.naming load tag, Parameter.naming load tag⟩

/-- A slot that holds options only, or a blank, passes for a name. -/
theorem Tag.ofTag_takes_nameless :
    (∃ property, Property.ofTag (.ok .standard) ⟨"property", "", some "(required)", ["string"]⟩ =
      .ok property ∧ property.name = "") ∧
    (∃ property, Property.ofTag (.ok .standard) ⟨"property", "", some " ", ["string"]⟩ =
      .ok property ∧ property.name = "") ∧
    (∃ parameter, Parameter.ofTag (.ok .standard) ⟨"parameter", "", some "(required)", ["string"]⟩ =
      .ok parameter ∧ parameter.name = "") ∧
    ∃ parameter, Parameter.ofTag (.ok .standard) ⟨"parameter", "", some " ", ["string"]⟩ =
      .ok parameter ∧ parameter.name = "" :=
  ⟨⟨_, rfl, by decide +kernel⟩, ⟨_, rfl, by decide +kernel⟩, ⟨_, rfl, by decide +kernel⟩,
    ⟨_, rfl, by decide +kernel⟩⟩

end DocTags
