import DocTags.Model.Document

/-!
# Which properties a document calls required

A document writes one property under each name, the last one, but lists the name of every property
that is required. The list agrees with what is written exactly if no required property is followed
by another of its name. Otherwise it names a property twice, or one that is not required as it
stands in the document.
-/

namespace DocTags.Model

/-- A document of a model, and how it writes a property. -/
inductive WrittenBy (model : Model) : (Property → Fields Json) → Json → Prop where
  | legacy {document : Json} (written : model.legacy = .ok document) :
      WrittenBy model Property.legacy document
  | v2 : WrittenBy model Property.v2 model.v2

/-- The property that stands under a name: of all with that name the last one. -/
def lastNamed? (model : Model) (name : String) : Option Property :=
  (model.properties.filter (·.name == name)).getLast?

/-- Names are listed as required once each, if they are names of properties and the property that
stands under them is required, and not otherwise. -/
structure Agrees (model : Model) (names required : List String) : Prop where
  once : required.Nodup
  named : ∀ name ∈ required, name ∈ names
  exact : ∀ name ∈ names,
    name ∈ required ↔ ∃ property ∈ model.lastNamed? name, property.required = true

/-- No required property is followed by another of its name. -/
def RequiredLast (model : Model) : Prop :=
  model.properties.Pairwise fun property later =>
    property.required = true → later.name ≠ property.name

instance (model : Model) : Decidable model.RequiredLast :=
  inferInstanceAs (Decidable (List.Pairwise _ model.properties))

variable {model : Model} {property : Property} {properties : List Property} {id : Option String}
  {name : String}

/-! ### Properties in documents -/

theorem get?_propertyFields (model : Model) (write : Property → Fields Json) (name : String) :
    (model.propertyFields write).get? name =
      (model.lastNamed? name).map fun property => .object (write property) := by
  rw [propertyFields, Fields.ofList, Fields.get?_putAll, List.filter_map, List.getLast?_map,
    Option.map_map, Fields.get?, Option.or_none]
  rfl

theorem mem_names_propertyFields (write : Property → Fields Json) :
    name ∈ (model.propertyFields write).names ↔ name ∈ model.properties.map (·.name) := by
  rw [propertyFields, Fields.ofList, Fields.mem_names_putAll]
  simp [Fields.names]

theorem mem_names_of_mem_requiredNames (listed : name ∈ model.requiredNames) :
    name ∈ model.properties.map (·.name) := by
  obtain ⟨property, member, rfl⟩ := List.mem_map.mp listed
  exact List.mem_map_of_mem (List.mem_filter.mp member).1

theorem count_requiredNames (model : Model) (name : String) :
    model.requiredNames.count name =
      model.properties.countP fun property => property.required && property.name == name := by
  unfold requiredNames
  rw [List.count_eq_countP, List.countP_map, List.countP_filter]
  apply List.countP_congr
  intro property _
  simp [Bool.and_comm]

theorem mem_requiredNames_of_last (last : property ∈ model.lastNamed? name)
    (required : property.required = true) : name ∈ model.requiredNames := by
  obtain ⟨member, named⟩ := List.mem_filter.mp (List.mem_of_getLast? last)
  rw [← beq_iff_eq.mp named]
  exact List.mem_map_of_mem (List.mem_filter.mpr ⟨member, required⟩)

/-! ### One property more -/

theorem requiredNames_cons (id : Option String) (property : Property) (properties : List Property) :
    requiredNames ⟨id, property :: properties⟩ =
      (if property.required then [property.name] else []) ++ requiredNames ⟨id, properties⟩ := by
  unfold requiredNames
  cases required : property.required <;> simp [required]

theorem mem_requiredNames_cons :
    name ∈ requiredNames ⟨id, property :: properties⟩ ↔
      (property.required = true ∧ name = property.name) ∨
        name ∈ requiredNames ⟨id, properties⟩ := by
  rw [requiredNames_cons]
  cases property.required <;> simp

theorem lastNamed?_cons_of_mem (later : name ∈ properties.map (·.name)) :
    lastNamed? ⟨id, property :: properties⟩ name = lastNamed? ⟨id, properties⟩ name := by
  obtain ⟨last, found⟩ : ∃ last, (properties.filter (·.name == name)).getLast? = some last := by
    rw [← Option.isSome_iff_exists, List.getLast?_isSome]
    obtain ⟨other, member, rfl⟩ := List.mem_map.mp later
    exact List.ne_nil_of_mem (List.mem_filter.mpr ⟨member, by simp⟩)
  simp only [lastNamed?, List.filter_cons, found]
  split
  · rw [List.getLast?_cons, found, Option.getD_some]
  · exact found

theorem lastNamed?_cons_self (last : property.name ∉ properties.map (·.name)) :
    lastNamed? ⟨id, property :: properties⟩ property.name = some property := by
  have others : properties.filter (·.name == property.name) = [] := by
    rw [List.filter_eq_nil_iff]
    intro other member same
    exact last (beq_iff_eq.mp same ▸ List.mem_map_of_mem member)
  rw [lastNamed?, List.filter_cons_of_pos (by simp), others, List.getLast?_singleton]

def ListsAgreeing (model : Model) : Prop :=
  model.Agrees (model.properties.map (·.name)) model.requiredNames

theorem ListsAgreeing.not_later (agreeing : ListsAgreeing ⟨id, property :: properties⟩)
    (required : property.required = true) : property.name ∉ properties.map (·.name) := by
  intro later
  have listed : property.name ∈ requiredNames ⟨id, property :: properties⟩ :=
    mem_requiredNames_cons.mpr (.inl ⟨required, rfl⟩)
  obtain ⟨last, isLast, lastRequired⟩ := (agreeing.exact _ List.mem_cons_self).mp listed
  rw [lastNamed?_cons_of_mem later] at isLast
  -- Then the name is listed for this property and for the last one.
  have again : property.name ∈ requiredNames ⟨id, properties⟩ :=
    mem_requiredNames_of_last isLast lastRequired
  have once := agreeing.once
  rw [requiredNames_cons, if_pos required] at once
  exact (List.nodup_cons.mp once).1 again

theorem ListsAgreeing.tail (agreeing : ListsAgreeing ⟨id, property :: properties⟩) :
    ListsAgreeing ⟨id, properties⟩ := by
  refine ⟨?_, fun _ => mem_names_of_mem_requiredNames, ?_⟩
  · have once := agreeing.once
    rw [requiredNames_cons] at once
    exact (List.nodup_append.mp once).2.1
  · intro name later
    have exact := agreeing.exact name (List.mem_cons_of_mem _ later)
    have other : ¬ (property.required = true ∧ name = property.name) := by
      rintro ⟨required, rfl⟩
      exact agreeing.not_later required later
    rwa [lastNamed?_cons_of_mem later, mem_requiredNames_cons, or_iff_right other] at exact

theorem ListsAgreeing.cons (agreeing : ListsAgreeing ⟨id, properties⟩)
    (last : property.required = true → property.name ∉ properties.map (·.name)) :
    ListsAgreeing ⟨id, property :: properties⟩ := by
  refine ⟨?_, fun _ => mem_names_of_mem_requiredNames, ?_⟩
  · rw [requiredNames_cons]
    split
    · rename_i required
      have unlisted : property.name ∉ requiredNames ⟨id, properties⟩ :=
        fun listed => last required (mem_names_of_mem_requiredNames listed)
      exact List.nodup_cons.mpr ⟨unlisted, agreeing.once⟩
    · exact agreeing.once
  · intro name member
    rw [mem_requiredNames_cons]
    by_cases later : name ∈ properties.map (·.name)
    · have other : ¬ (property.required = true ∧ name = property.name) := by
        rintro ⟨required, rfl⟩
        exact last required later
      rw [or_iff_right other, lastNamed?_cons_of_mem later, agreeing.exact name later]
    · obtain rfl : name = property.name := (List.mem_cons.mp member).resolve_right later
      have unlisted : property.name ∉ requiredNames ⟨id, properties⟩ :=
        fun listed => later (mem_names_of_mem_requiredNames listed)
      simp [unlisted, lastNamed?_cons_self later]

theorem listsAgreeing_iff (id : Option String) (properties : List Property) :
    ListsAgreeing ⟨id, properties⟩ ↔ RequiredLast ⟨id, properties⟩ := by
  induction properties with
  | nil =>
    have empty : ListsAgreeing ⟨id, []⟩ := ⟨.nil, by simp [requiredNames], by simp⟩
    exact iff_of_true empty .nil
  | cons property properties ih =>
    have last : (property.required = true → property.name ∉ properties.map (·.name)) ↔
        ∀ later ∈ properties, property.required = true → later.name ≠ property.name := by
      simp only [List.mem_map, not_exists, not_and]
      exact ⟨fun apart later member required => apart required later member,
        fun apart required later member => apart later member required⟩
    have step : RequiredLast ⟨id, property :: properties⟩ ↔
        (∀ later ∈ properties, property.required = true → later.name ≠ property.name) ∧
          RequiredLast ⟨id, properties⟩ := List.pairwise_cons
    rw [step, ← last, ← ih]
    exact ⟨fun agreeing => ⟨agreeing.not_later, agreeing.tail⟩, fun both => both.2.cons both.1⟩

/-! ### Documents -/

theorem Agrees.congr {names others required : List String}
    (same : ∀ name, name ∈ names ↔ name ∈ others) (agrees : model.Agrees names required) :
    model.Agrees others required where
  once := agrees.once
  named name listed := (same name).mp (agrees.named name listed)
  exact name member := agrees.exact name ((same name).mpr member)

theorem WrittenBy.fields {write : Property → Fields Json} {document : Json}
    (written : model.WrittenBy write document) :
    document.get? "properties" = some (.object (model.propertyFields write)) ∧
      document.get? "required" = some (.texts model.requiredNames) := by
  cases written with
  | v2 => exact ⟨rfl, rfl⟩
  | legacy written =>
    unfold Model.legacy at written
    split at written
    · cases written
    · rw [← Except.ok.inj written]
      exact ⟨rfl, rfl⟩

/-- In either dialect the last property of a name is the one that is written, and a name is listed
as required as often as a property with that name is. All listed names are written, and the list
agrees with the properties that are written exactly if no required property is followed by another
of its name. -/
theorem required_agrees_iff (model : Model) (write : Property → Fields Json) (document : Json)
    (written : model.WrittenBy write document) :
    ∃ (fields : Fields Json) (required : List String),
      document.get? "properties" = some (.object fields) ∧
      document.get? "required" = some (.texts required) ∧
      (∀ name, fields.get? name =
        (model.lastNamed? name).map fun property => .object (write property)) ∧
      (∀ name, required.count name =
        model.properties.countP fun property => property.required && property.name == name) ∧
      (∀ name ∈ required, name ∈ fields.names) ∧
      (model.Agrees fields.names required ↔ model.RequiredLast) := by
  have keys : ∀ name, name ∈ (model.propertyFields write).names ↔
      name ∈ model.properties.map (·.name) := fun _ => mem_names_propertyFields write
  obtain ⟨properties, required⟩ := written.fields
  refine ⟨_, _, properties, required, model.get?_propertyFields write, count_requiredNames model,
    fun name listed => (keys name).mpr (mem_names_of_mem_requiredNames listed), ?_⟩
  rw [← listsAgreeing_iff]
  exact ⟨.congr keys, .congr fun name => (keys name).symm⟩

def renamed (first second : Bool) : Model where
  id := some "Widget"
  properties := [
    ⟨"id", ⟨"integer", false, .primitive⟩, none, first⟩,
    ⟨"id", ⟨"string", false, .primitive⟩, none, second⟩]

theorem required_agrees_iff_laterRequired :
    (renamed false true).RequiredLast ∧
    ∃ (fields : Fields Json) (required : List String),
      (renamed false true).v2.get? "properties" = some (.object fields) ∧
      (renamed false true).v2.get? "required" = some (.texts required) ∧
      (renamed false true).Agrees fields.names required := by
  have last : (renamed false true).RequiredLast := by decide
  obtain ⟨fields, required, properties, listed, _, _, _, agrees⟩ :=
    required_agrees_iff (renamed false true) Property.v2 _ .v2
  exact ⟨last, fields, required, properties, listed, agrees.mpr last⟩

/-- A property is listed as required for the sake of one that it has displaced, or it is listed
twice. -/
theorem requiredNames_disagree :
    (∃ document, (renamed true false).legacy = .ok document ∧
      document.get? "required" = some (.texts ["id"])) ∧
    (renamed true false).v2.get? "required" = some (.texts ["id"]) ∧
    ((renamed true false).propertyFields Property.legacy).names = ["id"] ∧
    ((renamed true false).propertyFields Property.v2).names = ["id"] ∧
    ¬ (renamed true false).Agrees ["id"] ["id"] ∧
    (renamed true true).v2.get? "required" = some (.texts ["id", "id"]) ∧
    ¬ (renamed true true).Agrees ["id"] ["id", "id"] := by
  refine ⟨⟨_, rfl, rfl⟩, rfl, rfl, rfl, ?_, rfl, ?_⟩
  · intro agrees
    obtain ⟨property, last, required⟩ := (agrees.exact "id" (.head _)).mp (.head _)
    obtain rfl : ⟨"id", ⟨"string", false, .primitive⟩, none, false⟩ = property :=
      Option.some.inj last
    cases required
  · intro agrees
    exact absurd agrees.once (by decide)

end DocTags.Model
