import DocTags.Model.Basic
import DocTags.Proofs.Operation.Description
import DocTags.Proofs.Operation.Malformed

/-!
# What tags make of a model

The first `@model` tag gives the id of a model that has none, and its properties are read from the
`@property` tags in order; no other tag matters. The first property that cannot be read stops the
work: for the fault of its tag, and where there is none for want of settings.
-/

namespace DocTags

variable {load : Settings.Loaded} {failure : Failure} {tag : Tag} {cause : TagError.Cause}

namespace Property

/-- What is wrong with a `@property` tag that cannot be read. -/
inductive Faulty (tag : Tag) : TagError.Cause → Prop where
  | withoutName (name : tag.name = none ∨ tag.name = some "") : Faulty tag .propertyWithoutName
  | type {slot : String} {cause : TagError.Cause} (name : tag.name = some slot) (given : slot ≠ "")
      (type : TypeRef.Faulty tag.types cause) : Faulty tag cause

theorem ofTag_of_faulty (load : Settings.Loaded) (faulty : Faulty tag cause) :
    ofTag load tag = .error (.tag ⟨.malformedTag, cause.message, some tag.tagName, none⟩) := by
  cases faulty with
  | withoutName name =>
    rw [ofTag, Tag.bind_nonempty?_of_unnamed name]
    rfl
  | type name given type =>
    simp only [ofTag, Tag.bind_nonempty?_of_named name given, TypeRef.ofTypes_of_faulty load type,
      type.inTag]
    rw [Failure.ofCause, TagError.ofCause, type.kind]

theorem ofTag_classifying (sound : ¬ ∃ cause, Faulty tag cause) :
    ∃ shape : Property, TypeRef.Classifying (ofTag · tag) fun type => { shape with type } := by
  obtain ⟨slot, name, given⟩ := Tag.exists_slot fun unnamed => sound ⟨_, .withoutName unnamed⟩
  obtain ⟨typeName, array, read⟩ := TypeRef.ofTypes_classifying
    fun cause type => sound ⟨cause, .type name given type⟩
  obtain ⟨shape, known⟩ : ∃ shape, ofTag (.ok .standard) tag = .ok shape := by
    simp only [ofTag, Tag.bind_nonempty?_of_named name given, read]
    exact ⟨_, rfl⟩
  refine ⟨shape, typeName, array, fun load => ?_⟩
  simp only [ofTag, Tag.bind_nonempty?_of_named name given, read] at known ⊢
  obtain rfl := Except.ok.inj known
  cases load <;> rfl

end Property

variable {before after tags : List Tag}

theorem Tag.named_cons_of_eq {name : String} (same : tag.tagName = name) :
    named (tag :: tags) name = tag :: named tags name := by
  simp [named, same]

theorem Tag.named_cons_of_ne {name : String} (different : tag.tagName ≠ name) :
    named (tag :: tags) name = named tags name := by
  simp [named, different]

theorem Tag.named_append (tags more : List Tag) (name : String) :
    named (tags ++ more) name = named tags name ++ named more name :=
  List.filter_append tags more

namespace Model

variable {model : Model} {properties : List Property}

/-! ### One tag -/

theorem applyTag_model (load : Settings.Loaded) (model : Model) (named : tag.tagName = "model") :
    model.applyTag load tag = .ok { model with id := model.id <|> some tag.text } := by
  simp only [applyTag, named]

theorem applyTag_property (model : Model) (named : tag.tagName = "property") :
    model.applyTag load tag = (Property.ofTag load tag).map fun property =>
      { model with properties := model.properties ++ [property] } := by
  simp only [applyTag, named]
  cases Property.ofTag load tag <;> rfl

theorem applyTag_other (load : Settings.Loaded) (model : Model) (notModel : tag.tagName ≠ "model")
    (notProperty : tag.tagName ≠ "property") : model.applyTag load tag = .ok model := by
  unfold applyTag
  split <;> simp_all

/-! ### Lists of tags -/

theorem applyTags_append (load : Settings.Loaded) (model : Model) (before after : List Tag) :
    model.applyTags load (before ++ after) =
      (model.applyTags load before).andThen fun mid => mid.applyTags load after := by
  induction before generalizing model with
  | nil => rfl
  | cons tag before ih =>
    rw [List.cons_append, applyTags, applyTags]
    cases model.applyTag load tag with
    | ok next => exact ih next
    | error failure => rfl

theorem applyTags_read (model : Model)
    (read : (Tag.named tags "property").map (Property.ofTag load) = properties.map .ok) :
    model.applyTags load tags =
      .done ⟨model.id <|> (Tag.named tags "model").head?.map (·.text),
        model.properties ++ properties⟩ := by
  induction tags generalizing model properties with
  | nil =>
    obtain rfl : properties = [] := List.map_eq_nil_iff.mp read.symm
    simp [applyTags, Tag.named]
  | cons tag tags ih =>
    rw [applyTags]
    by_cases isModel : tag.tagName = "model"
    · rw [Tag.named_cons_of_ne (isModel ▸ by decide)] at read
      rw [applyTag_model load model isModel, Tag.named_cons_of_eq isModel]
      simp only [ih _ read]
      simp
    · rw [Tag.named_cons_of_ne isModel]
      by_cases isProperty : tag.tagName = "property"
      · rw [Tag.named_cons_of_eq isProperty, List.map_cons] at read
        obtain ⟨property, rest, rfl, first, later⟩ := List.map_eq_cons_iff.mp read.symm
        rw [applyTag_property model isProperty, ← first]
        simp only [Except.map, ih _ later.symm]
        simp
      · rw [Tag.named_cons_of_ne isProperty] at read
        rw [applyTag_other load model isModel isProperty]
        exact ih model read

theorem applyTags_through (through : (model.applyTags load tags).failure = none) :
    ∃ properties : List Property,
      (Tag.named tags "property").map (Property.ofTag load) = properties.map .ok := by
  induction tags generalizing model with
  | nil => exact ⟨[], rfl⟩
  | cons tag tags ih =>
    rw [applyTags] at through
    cases taken : model.applyTag load tag with
    | error failure =>
      rw [taken] at through
      cases through
    | ok next =>
      rw [taken] at through
      obtain ⟨properties, read⟩ := ih through
      by_cases isProperty : tag.tagName = "property"
      · rw [applyTag_property model isProperty] at taken
        cases first : Property.ofTag load tag with
        | error failure =>
          rw [first] at taken
          cases taken
        | ok property =>
          exact ⟨property :: properties, by simp [Tag.named_cons_of_eq isProperty, first, read]⟩
      · exact ⟨properties, by rw [Tag.named_cons_of_ne isProperty, read]⟩

/-- A model is built exactly if all its properties are read; it is known from the first id and the
properties. -/
theorem ofTags_eq_ok_iff :
    ofTags load tags = .ok model ↔
      model.id = (Tag.named tags "model").head?.map (·.text) ∧
      (Tag.named tags "property").map (Property.ofTag load) = model.properties.map .ok := by
  constructor
  · intro built
    unfold ofTags at built
    dsimp only at built
    split at built
    · cases built
    · rename_i through
      obtain ⟨properties, read⟩ := applyTags_through through
      rw [applyTags_read empty read] at built
      obtain rfl := Except.ok.inj built
      exact ⟨rfl, read⟩
  · rintro ⟨id, read⟩
    rw [ofTags, applyTags_read empty read, ← id]
    rfl

theorem exists_properties
    (read : ∀ tag ∈ tags, ∃ property, Property.ofTag load tag = .ok property) :
    ∃ properties : List Property, tags.map (Property.ofTag load) = properties.map .ok := by
  induction tags with
  | nil => exact ⟨[], rfl⟩
  | cons tag tags ih =>
    obtain ⟨property, first⟩ := read tag List.mem_cons_self
    obtain ⟨properties, later⟩ := ih fun tag member => read tag (List.mem_cons_of_mem _ member)
    exact ⟨property :: properties, by rw [List.map_cons, List.map_cons, first, later]⟩

theorem exists_properties_of_sound (settings : Settings)
    (sound : ∀ tag ∈ tags, tag.tagName = "property" → ¬ ∃ cause, Property.Faulty tag cause) :
    ∃ properties : List Property,
      (Tag.named tags "property").map (Property.ofTag (.ok settings)) = properties.map .ok := by
  refine exists_properties fun tag member => ?_
  obtain ⟨inTags, named⟩ := List.mem_filter.mp member
  obtain ⟨shape, read⟩ := Property.ofTag_classifying (sound tag inTags (beq_iff_eq.mp named))
  exact read.loaded settings

/-- Whether a model can be built does not depend on what the settings say. -/
theorem ofTags_loaded_iff (settings : Settings) :
    (∃ model, ofTags (.ok settings) tags = .ok model) ↔
      ∀ tag ∈ tags, tag.tagName = "property" → ¬ ∃ cause, Property.Faulty tag cause := by
  constructor
  · rintro ⟨model, built⟩ tag member named ⟨cause, faulty⟩
    obtain ⟨_, read⟩ := ofTags_eq_ok_iff.mp built
    have listed : Property.ofTag (.ok settings) tag ∈ model.properties.map .ok := by
      rw [← read]
      exact List.mem_map_of_mem (List.mem_filter.mpr ⟨member, beq_iff_eq.mpr named⟩)
    obtain ⟨property, _, same⟩ := List.mem_map.mp listed
    rw [Property.ofTag_of_faulty _ faulty] at same
    cases same
  · intro sound
    obtain ⟨properties, read⟩ := exists_properties_of_sound settings sound
    exact ⟨⟨_, properties⟩, ofTags_eq_ok_iff.mpr ⟨rfl, read⟩⟩

/-- The first property that cannot be read stops the work where it is. -/
theorem applyTags_stops (model : Model) (after : List Tag)
    (read : (Tag.named before "property").map (Property.ofTag load) = properties.map .ok)
    (named : tag.tagName = "property") (failed : Property.ofTag load tag = .error failure) :
    model.applyTags load (before ++ tag :: after) =
      .stopped (model.applyTags load before).state failure := by
  have stopped : ∀ mid : Model, mid.applyTags load (tag :: after) = .stopped mid failure := by
    intro mid
    rw [applyTags, applyTag_property mid named, failed]
    rfl
  rw [applyTags_append, applyTags_read model read, Outcome.andThen_of_success rfl, stopped]
  rfl

end Model

end DocTags
