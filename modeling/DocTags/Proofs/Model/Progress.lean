import DocTags.Model.Action
import DocTags.Proofs.Model.Tags
import DocTags.Proofs.Session

/-!
# Models that take in tags piece by piece

It does not matter whether tags come in one list or in several. A malformed `@property` tag stops
its own list: what stands before it is taken in, and what follows is not looked at. Nothing is
undone by that, so along any session the id stays what it once was and properties are only added at
the end. `Grown` says which tags account for a model that has come out of another.
-/

namespace DocTags

/-- A `@property` tag that cannot be read. -/
def Tag.MalformedProperty (tag : Tag) : Prop :=
  tag.tagName = "property" ∧ ∃ cause, Property.Faulty tag cause

instance TypeRef.decidableFaulty (types : List String) :
    Decidable (∃ cause, TypeRef.Faulty types cause) :=
  match types with
  | [] => isTrue ⟨_, .missing⟩
  | raw :: _ => decidable_of_iff (TypeRef.Unnamed raw)
    ⟨fun unnamed => ⟨_, .unnamed unnamed⟩, fun ⟨_, .unnamed unnamed⟩ => unnamed⟩

theorem Property.exists_faulty_iff {tag : Tag} :
    (∃ cause, Faulty tag cause) ↔
      (tag.name = none ∨ tag.name = some "") ∨ ∃ cause, TypeRef.Faulty tag.types cause := by
  constructor
  · rintro ⟨cause, faulty⟩
    cases faulty with
    | withoutName name => exact .inl name
    | type _ _ type => exact .inr ⟨cause, type⟩
  · rintro (name | ⟨cause, type⟩)
    · exact ⟨_, .withoutName name⟩
    · by_cases unnamed : tag.name = none ∨ tag.name = some ""
      · exact ⟨_, .withoutName unnamed⟩
      · obtain ⟨slot, name, given⟩ := Tag.exists_slot unnamed
        exact ⟨cause, .type name given type⟩

instance Property.decidableFaulty (tag : Tag) : Decidable (∃ cause, Property.Faulty tag cause) :=
  decidable_of_iff _ Property.exists_faulty_iff.symm

instance Tag.decidableMalformedProperty (tag : Tag) : Decidable tag.MalformedProperty :=
  inferInstanceAs (Decidable (tag.tagName = "property" ∧ ∃ cause, Property.Faulty tag cause))

namespace Model

/-- The tags of a list that are taken in: those before the first malformed property. -/
def takenIn (tags : List Tag) : List Tag := tags.takeWhile fun tag => !decide tag.MalformedProperty

/-- What has become of a model once the given tags are taken in. -/
structure Grown (load : Settings.Loaded) (tags : List Tag) (model next : Model) : Prop where
  id : next.id = (model.id <|> (Tag.named tags "model").head?.map (·.text))
  properties : ∃ added : List Property, next.properties = model.properties ++ added ∧
    (Tag.named tags "property").map (Property.ofTag load) = added.map .ok

/-- A later state of a model: an id stays, and properties come after those that are there. -/
structure Extends (model next : Model) : Prop where
  id : ∀ id, model.id = some id → next.id = some id
  properties : model.properties <+: next.properties

def Action.tags : Action → List Tag
  | .parseTags (.ok tags) => tags
  | _ => []

variable {load : Settings.Loaded} {settings : Settings} {model mid next : Model} {tag : Tag}
  {tags more before after : List Tag} {cause : TagError.Cause}

/-! ### One list of tags -/

theorem exists_added (settings : Settings) (sound : ∀ tag ∈ tags, ¬ tag.MalformedProperty) :
    ∃ added : List Property,
      (Tag.named tags "property").map (Property.ofTag (.ok settings)) = added.map .ok :=
  exists_properties_of_sound settings
    fun tag member named faulty => sound tag member ⟨named, faulty⟩

theorem applyTags_sound (model : Model) (sound : ∀ tag ∈ tags, ¬ tag.MalformedProperty) :
    (model.applyTags (.ok settings) tags).failure = none ∧
    Grown (.ok settings) tags model (model.applyTags (.ok settings) tags).state := by
  obtain ⟨properties, read⟩ := exists_added settings sound
  rw [applyTags_read model read]
  exact ⟨rfl, rfl, properties, rfl, read⟩

theorem applyTags_malformed (model : Model) (after : List Tag)
    (sound : ∀ earlier ∈ before, ¬ earlier.MalformedProperty) (named : tag.tagName = "property")
    (faulty : Property.Faulty tag cause) :
    model.applyTags (.ok settings) (before ++ tag :: after) =
      .stopped (model.applyTags (.ok settings) before).state
        (.tag ⟨.malformedTag, cause.message, some "property", none⟩) := by
  obtain ⟨properties, read⟩ := exists_added settings sound
  rw [applyTags_stops model after read named (Property.ofTag_of_faulty _ faulty), named]

theorem applyTags_refused (settings : Settings) (model : Model)
    (malformed : ∃ tag ∈ tags, tag.MalformedProperty) :
    ∃ error, (model.applyTags (.ok settings) tags).failure = some (.tag error) ∧
      error.kind = .malformedTag := by
  obtain ⟨before, tag, after, rfl, sound, named, cause, faulty⟩ := Tag.exists_first malformed
  rw [applyTags_malformed model after sound named faulty]
  exact ⟨_, rfl, rfl⟩

theorem takenIn_of_sound (sound : ∀ tag ∈ tags, ¬ tag.MalformedProperty) :
    takenIn tags = tags := by
  rw [takenIn, List.takeWhile_eq_self_iff]
  simpa using sound

theorem takenIn_append_cons (after : List Tag)
    (sound : ∀ earlier ∈ before, ¬ earlier.MalformedProperty) (malformed : tag.MalformedProperty) :
    takenIn (before ++ tag :: after) = before := by
  rw [takenIn, List.takeWhile_append_of_pos (by simpa using sound),
    List.takeWhile_cons_of_neg (by simpa using malformed), List.append_nil]

theorem applyTags_grown (settings : Settings) (model : Model) (tags : List Tag) :
    Grown (.ok settings) (takenIn tags) model (model.applyTags (.ok settings) tags).state := by
  by_cases malformed : ∃ tag ∈ tags, tag.MalformedProperty
  · obtain ⟨before, tag, after, rfl, sound, spoilt⟩ := Tag.exists_first malformed
    obtain ⟨named, cause, faulty⟩ := spoilt
    rw [applyTags_malformed model after sound named faulty,
      takenIn_append_cons after sound ⟨named, cause, faulty⟩]
    exact (applyTags_sound model sound).2
  · have sound : ∀ tag ∈ tags, ¬ tag.MalformedProperty := by simpa using malformed
    rw [takenIn_of_sound sound]
    exact (applyTags_sound model sound).2

theorem Extends.refl (model : Model) : Extends model model :=
  ⟨fun _ given => given, List.prefix_refl _⟩

theorem Extends.trans (first : Extends model mid) (second : Extends mid next) :
    Extends model next :=
  ⟨fun id given => second.id id (first.id id given), first.properties.trans second.properties⟩

theorem applyTag_extends (taken : model.applyTag load tag = .ok next) : Extends model next := by
  by_cases isModel : tag.tagName = "model"
  · rw [applyTag_model load model isModel] at taken
    obtain rfl := Except.ok.inj taken
    exact ⟨fun id given => by simp [given], List.prefix_refl _⟩
  · by_cases isProperty : tag.tagName = "property"
    · rw [applyTag_property model isProperty] at taken
      cases read : Property.ofTag load tag with
      | error failure =>
        rw [read] at taken
        cases taken
      | ok property =>
        rw [read] at taken
        obtain rfl := Except.ok.inj taken
        exact ⟨fun id given => given, List.prefix_append _ _⟩
    · rw [applyTag_other load model isModel isProperty] at taken
      obtain rfl := Except.ok.inj taken
      exact .refl model

theorem applyTags_extends (load : Settings.Loaded) (model : Model) (tags : List Tag) :
    Extends model (model.applyTags load tags).state := by
  induction tags generalizing model with
  | nil => exact .refl model
  | cons tag tags ih =>
    rw [applyTags]
    cases taken : model.applyTag load tag with
    | ok next => exact (applyTag_extends taken).trans (ih next)
    | error failure => exact .refl model

/-! ### Sessions -/

theorem state_perform (load : Settings.Loaded) (model : Model) (action : Action) :
    (model.perform load action).state = (model.applyTags load action.tags).state := by
  cases action with
  | parseTags tags => cases tags <;> rfl
  | valid | names | required | legacy | v2 | reach => rfl

theorem Grown.refl (load : Settings.Loaded) (model : Model) : Grown load [] model model :=
  ⟨by simp [Tag.named], [], by simp, rfl⟩

theorem Grown.trans (first : Grown load tags model mid) (second : Grown load more mid next) :
    Grown load (tags ++ more) model next := by
  obtain ⟨added, early, read⟩ := first.properties
  obtain ⟨addedLater, late, readLater⟩ := second.properties
  refine ⟨?_, added ++ addedLater, ?_, ?_⟩
  · rw [second.id, first.id, Tag.named_append, List.head?_append]
    simp [Option.map_or, Option.or_assoc]
  · rw [late, early, List.append_assoc]
  · rw [Tag.named_append, List.map_append, List.map_append, read, readLater]

theorem states_grown (session : Session) (model : Model) (actions : List Action)
    (loaded : session.settings = .ok settings) {position : Nat}
    (within : position ≤ actions.length) :
    ∃ state, (session.states perform model (actions.map .act))[position]? = some state ∧
      Grown (.ok settings) ((actions.take position).flatMap fun action => takenIn action.tags)
        model state := by
  -- Along the run, the tags taken in so far account for the state.
  have step : ∀ before state action,
      Grown (.ok settings) (before.flatMap fun action => takenIn action.tags) model state →
      Grown (.ok settings) ((before ++ [action]).flatMap fun action => takenIn action.tags)
        model (state.perform (.ok settings) action).state := by
    intro before state action grown
    rw [List.flatMap_append, List.flatMap_singleton, state_perform]
    exact grown.trans (applyTags_grown settings state action.tags)
  cases position with
  | zero => exact ⟨model, rfl, .refl _ model⟩
  | succ position =>
    have start : Grown (.ok settings) ([].flatMap fun action => takenIn (Action.tags action))
        model model := .refl _ model
    obtain ⟨reply, answered, grown⟩ := Session.run_invariant
      (fun before state => Grown (.ok settings)
        (before.flatMap fun action => takenIn action.tags) model state)
      step loaded start within
    exact ⟨reply.state, by simp [Session.states, answered], grown⟩

/-- Tags that are taken in piece by piece make the same model, or fail in the same way, as all at
once. They are refused exactly if there is a malformed property among them; the first one is
reported, and the model is left as the tags before it made it. Along a session, refusals included,
an id stays once it is there and properties are added at the end only, one for each `@property` tag
that was taken in. -/
theorem applyTags_piecewise (settings : Settings) (model : Model) :
    (∀ tags more, model.applyTags (.ok settings) (tags ++ more) =
      (model.applyTags (.ok settings) tags).andThen fun mid => mid.applyTags (.ok settings) more) ∧
    (∀ tags,
      ((∃ error, (model.applyTags (.ok settings) tags).failure = some (.tag error) ∧
        error.kind = .malformedTag) ↔ ∃ tag ∈ tags, tag.MalformedProperty) ∧
      ((model.applyTags (.ok settings) tags).failure = none ↔
        ∀ tag ∈ tags, ¬ tag.MalformedProperty)) ∧
    (∀ before tag after cause, (∀ earlier ∈ before, ¬ earlier.MalformedProperty) →
      tag.tagName = "property" → Property.Faulty tag cause →
      model.applyTags (.ok settings) (before ++ tag :: after) =
        .stopped (model.applyTags (.ok settings) before).state
          (.tag ⟨.malformedTag, cause.message, some "property", none⟩)) ∧
    ∀ session : Session,
      (∀ steps, (session.states perform model steps).Pairwise Extends) ∧
      ∀ (actions : List Action) (position : Nat), session.settings = .ok settings →
        position ≤ actions.length →
        ∃ state, (session.states perform model (actions.map .act))[position]? = some state ∧
          Grown (.ok settings) ((actions.take position).flatMap fun action => takenIn action.tags)
            model state := by
  refine ⟨applyTags_append (.ok settings) model, fun tags => ⟨⟨?_, ?_⟩, ⟨?_, ?_⟩⟩, ?_, ?_⟩
  · rintro ⟨error, failed, _⟩
    by_contra none
    have sound : ∀ tag ∈ tags, ¬ tag.MalformedProperty := by simpa using none
    rw [(applyTags_sound model sound).1] at failed
    cases failed
  · exact applyTags_refused settings model
  · intro through tag member malformed
    obtain ⟨error, failed, _⟩ := applyTags_refused settings model ⟨tag, member, malformed⟩
    rw [through] at failed
    cases failed
  · exact fun sound => (applyTags_sound model sound).1
  · exact fun before tag after cause sound named faulty =>
      applyTags_malformed model after sound named faulty
  · refine fun session => ⟨fun steps => ?_, fun actions position loaded within => ?_⟩
    · refine Session.states_pairwise Extends.refl (fun _ _ _ => Extends.trans) ?_ session model
        steps
      intro load state action
      rw [state_perform]
      exact applyTags_extends load state action.tags
    · exact states_grown session model actions loaded within

/-- Tags with an empty id and a property without a name. -/
def interrupted : List Tag :=
  [⟨"model", "", none, []⟩, ⟨"property", "", some "id", ["integer"]⟩, ⟨"property", "", none, []⟩,
   ⟨"property", "", some "lost", ["string"]⟩]

def resumed : List Tag :=
  [⟨"model", "Widget", none, []⟩, ⟨"property", "", some "owner", ["User"]⟩]

theorem applyTags_piecewise_resumed :
    (∃ tag ∈ interrupted, tag.MalformedProperty) ∧
    empty.applyTags (.ok .standard) interrupted =
      .stopped ⟨some "", [⟨"id", ⟨"integer", false, .primitive⟩, none, false⟩]⟩
        (.tag ⟨.malformedTag, "property is missing a name", some "property", none⟩) ∧
    ∃ state,
      ((Session.mk ⟨[], none⟩ none).states perform empty
        [.act (.parseTags (.ok interrupted)), .act .v2, .act (.parseTags (.ok resumed))])[3]? =
        some state ∧
      state.id = some "" ∧ state.properties.map (·.name) = ["id", "owner"] := by
  obtain ⟨_, _, stops, sessions⟩ := applyTags_piecewise .standard empty
  have nameless : Property.Faulty ⟨"property", "", none, []⟩ .propertyWithoutName :=
    .withoutName (.inl rfl)
  have stopped := stops [⟨"model", "", none, []⟩, ⟨"property", "", some "id", ["integer"]⟩]
    ⟨"property", "", none, []⟩ [⟨"property", "", some "lost", ["string"]⟩] _
    (by decide +kernel) rfl nameless
  obtain ⟨state, reached, grown⟩ := (sessions ⟨⟨[], none⟩, none⟩).2
    [.parseTags (.ok interrupted), .v2, .parseTags (.ok resumed)] 3 rfl (by decide)
  obtain ⟨added, properties, read⟩ := grown.properties
  obtain rfl : added = [⟨"id", ⟨"integer", false, .primitive⟩, none, false⟩,
      ⟨"owner", ⟨"User", false, .reference⟩, none, false⟩] :=
    (List.map_inj_right fun _ _ => Except.ok.inj).mp read.symm
  refine ⟨⟨_, .tail _ (.tail _ (.head _)), rfl, _, nameless⟩, stopped, state, reached, ?_, ?_⟩
  · rw [grown.id]
    decide +kernel
  · rw [properties]
    rfl

end Model

end DocTags
