import DocTags.Proofs.Operation.Steps
import DocTags.Proofs.Text.Numeral
import DocTags.Proofs.TypeRef

/-!
# Malformed tags

`Tag.Faulty` says what is wrong with a malformed tag; neither the operation nor the settings matter
for it. The first malformed tag of a declaration stops the work. Its fault is reported with the name
of the tag and the path of the declaration, and the log names the tags that were ignored before it.
A declaration without malformed tags is built.
-/

namespace DocTags

/-- The name slot holds an integer. -/
def Tag.HasStatusCode (tag : Tag) : Prop :=
  ∃ slot ∈ tag.name, ∃ numeral : Text.Numeral, numeral.Of slot.toList

/-- What is wrong with a tag that an operation cannot take in. -/
inductive Tag.Faulty (tag : Tag) : TagError.Cause → Prop where
  | withoutMethod (named : tag.tagName = "path") (types : tag.types = []) :
      Faulty tag .withoutMethod
  | withoutName (named : tag.tagName = "parameter") (name : tag.name = none ∨ tag.name = some "") :
      Faulty tag .parameterWithoutName
  | parameterType {slot : String} {cause : TagError.Cause} (named : tag.tagName = "parameter")
      (name : tag.name = some slot) (given : slot ≠ "") (type : TypeRef.Faulty tag.types cause) :
      Faulty tag cause
  | shorthand (named : tag.tagName = "parameter_list")
      (refused : ¬ ∃ shorthand, Shorthand.read tag.text = .ok shorthand) :
      Faulty tag (.shorthand tag.text)
  | responseType {cause : TagError.Cause} (named : tag.tagName = "response_type")
      (type : TypeRef.Faulty tag.types cause) : Faulty tag cause
  | statusCode (named : tag.tagName = "error_message") (code : ¬ tag.HasStatusCode) :
      Faulty tag (.statusCode tag.name)

def Tag.Malformed (tag : Tag) : Prop := ∃ cause, tag.Faulty cause

/-- The log lines for the tags that no operation takes in. -/
def Tag.ignored (tags : List Tag) : List LogEvent :=
  (tags.filter (·.tagName ∉ TagRole.recognized)).map fun tag => .ignoredTag tag.tagName

/-- Every operation takes the tag in. -/
def Tag.Passes (load : Settings.Loaded) (tag : Tag) : Prop :=
  ∀ operation : Operation, (operation.applyTag load tag).failure = none

/-- The tag stops the work on every operation, with this failure once the tag is named in it. -/
def Tag.Stops (load : Settings.Loaded) (tag : Tag) (failure : Failure) : Prop :=
  ∀ operation : Operation, ∃ state own, operation.applyTag load tag = .stopped state own ∧
    own.inTagIfUnknown tag.tagName = failure

variable {load : Settings.Loaded} {failure : Failure} {tag : Tag} {cause : TagError.Cause}

theorem TypeRef.Faulty.kind {types : List String} (faulty : TypeRef.Faulty types cause) :
    cause.kind = .malformedTag := by
  cases faulty <;> rfl

theorem Tag.Faulty.kind (faulty : tag.Faulty cause) : cause.kind = .malformedTag := by
  cases faulty with
  | parameterType _ _ _ type | responseType _ type => exact type.kind
  | _ => rfl

theorem Tag.exists_first {holds : Tag → Prop} {tags : List Tag} (some : ∃ tag ∈ tags, holds tag) :
    ∃ before tag after, tags = before ++ tag :: after ∧
      (∀ earlier ∈ before, ¬ holds earlier) ∧ holds tag := by
  induction tags with
  | nil => simp at some
  | cons tag tags ih =>
    by_cases here : holds tag
    · exact ⟨[], tag, tags, rfl, by simp, here⟩
    · have later : ∃ tag ∈ tags, holds tag := by
        obtain ⟨other, member, found⟩ := some
        rcases List.mem_cons.mp member with rfl | inTags
        · exact absurd found here
        · exact ⟨other, inTags, found⟩
      obtain ⟨before, first, after, rfl, none, found⟩ := ih later
      exact ⟨tag :: before, first, after, rfl, List.forall_mem_cons.mpr ⟨here, none⟩, found⟩

/-! ### What each reader refuses -/

theorem Tag.bind_nonempty?_of_unnamed (name : tag.name = none ∨ tag.name = some "") :
    tag.name.bind Text.nonempty? = none := by
  apply Option.bind_eq_none_iff.mpr
  intro slot given
  rcases name with absent | empty
  · rw [absent] at given
    cases given
  · rw [empty] at given
    exact Text.nonempty?_eq_none_iff.mpr (Option.some.inj given).symm

theorem Tag.exists_slot (named : ¬ (tag.name = none ∨ tag.name = some "")) :
    ∃ slot, tag.name = some slot ∧ slot ≠ "" := by
  cases name : tag.name with
  | none => exact absurd (.inl name) named
  | some slot =>
    refine ⟨slot, rfl, fun empty => named (.inr ?_)⟩
    rw [name, empty]

theorem Tag.bind_nonempty?_of_named {slot : String} (name : tag.name = some slot)
    (given : slot ≠ "") : tag.name.bind Text.nonempty? = some slot :=
  Option.bind_eq_some_iff.mpr ⟨slot, name, Text.nonempty?_eq_some_iff.mpr ⟨rfl, given⟩⟩

theorem TypeRef.Faulty.inTag {types : List String} (faulty : TypeRef.Faulty types cause)
    (name : String) : (Failure.ofCause cause none).inTag name = .ofCause cause (some name) := by
  simp [Failure.inTag, Failure.mapMalformed, Failure.ofCause, TagError.ofCause, faulty.kind]

namespace Parameter

theorem ofTag_unnamed (load : Settings.Loaded) (name : tag.name = none ∨ tag.name = some "") :
    ofTag load tag = .error (.ofCause .parameterWithoutName (some tag.tagName)) := by
  rw [ofTag, Tag.bind_nonempty?_of_unnamed name]

theorem ofTag_of_faulty (load : Settings.Loaded) {slot : String} (name : tag.name = some slot)
    (given : slot ≠ "") (type : TypeRef.Faulty tag.types cause) :
    ofTag load tag = .error (.ofCause cause (some tag.tagName)) := by
  simp only [ofTag, Tag.bind_nonempty?_of_named name given, TypeRef.ofTypes_of_faulty load type,
    type.inTag]

theorem ofTag_classifying (named : tag.tagName = "parameter") (sound : ¬ tag.Malformed) :
    ∃ shape : Parameter, TypeRef.Classifying (ofTag · tag) fun type => { shape with type } := by
  obtain ⟨slot, name, given⟩ :=
    Tag.exists_slot fun unnamed => sound ⟨_, .withoutName named unnamed⟩
  obtain ⟨typeName, array, read⟩ := TypeRef.ofTypes_classifying
    fun cause type => sound ⟨cause, .parameterType named name given type⟩
  obtain ⟨shape, known⟩ : ∃ shape, ofTag (.ok .standard) tag = .ok shape := by
    simp only [ofTag, Tag.bind_nonempty?_of_named name given, read]
    exact ⟨_, rfl⟩
  refine ⟨shape, typeName, array, fun load => ?_⟩
  simp only [ofTag, Tag.bind_nonempty?_of_named name given, read] at known ⊢
  obtain rfl := Except.ok.inj known
  cases load <;> rfl

theorem ofShorthand_refused (load : Settings.Loaded)
    (refused : ¬ ∃ shorthand, Shorthand.read tag.text = .ok shorthand) :
    ofShorthand load tag = .error (.ofCause (.shorthand tag.text) (some "parameter_list")) := by
  have unread : Shorthand.read tag.text =
      .error (.ofCause (.shorthand tag.text) (some "parameter_list")) := by
    unfold Shorthand.read at refused ⊢
    split
    · rename_i shorthand read
      exact absurd ⟨shorthand, by rw [read]⟩ refused
    · rfl
  rw [ofShorthand, unread]

theorem ofShorthand_classifying (named : tag.tagName = "parameter_list")
    (sound : ¬ tag.Malformed) :
    ∃ shape : Parameter,
      TypeRef.Classifying (ofShorthand · tag) fun type => { shape with type } := by
  by_cases accepted : ∃ shorthand, Shorthand.read tag.text = .ok shorthand
  · obtain ⟨shorthand, read⟩ := accepted
    obtain ⟨shape, known⟩ : ∃ shape, ofShorthand (.ok .standard) tag = .ok shape := by
      simp only [ofShorthand, read]
      exact ⟨_, rfl⟩
    refine ⟨shape, Text.lowered shorthand.typeName, false, fun load => ?_⟩
    simp only [ofShorthand, read] at known ⊢
    obtain rfl := Except.ok.inj known
    cases load <;> rfl
  · exact absurd ⟨_, .shorthand named accepted⟩ sound

end Parameter

theorem Tag.ofTypes_classifying (named : tag.tagName = "response_type") (sound : ¬ tag.Malformed) :
    TypeRef.Classifying (TypeRef.ofTypes · tag.types) id :=
  TypeRef.ofTypes_classifying fun cause type => sound ⟨cause, .responseType named type⟩

theorem ErrorMessage.ofTag_uncoded (uncoded : ¬ tag.HasStatusCode) :
    ErrorMessage.ofTag tag = .error (.ofCause (.statusCode tag.name) (some tag.tagName)) := by
  have unread : (tag.name.bind fun slot => Text.readInt? slot.toList) = none := by
    apply Option.bind_eq_none_iff.mpr
    intro slot given
    rw [Option.eq_none_iff_forall_ne_some]
    intro n read
    obtain ⟨numeral, of, _⟩ := Text.readInt?_eq_some_iff.mp read
    exact uncoded ⟨slot, given, numeral, of⟩
  rw [ErrorMessage.ofTag, unread]

theorem ErrorMessage.ofTag_coded (coded : tag.HasStatusCode) :
    ∃ error, ErrorMessage.ofTag tag = .ok error := by
  obtain ⟨slot, given, numeral, of⟩ := coded
  have read := Text.readInt?_eq_some_iff.mpr ⟨numeral, of, rfl⟩
  have code : (tag.name.bind fun slot => Text.readInt? slot.toList) = some numeral.value :=
    Option.bind_eq_some_iff.mpr ⟨slot, given, read⟩
  rw [ErrorMessage.ofTag, code]
  exact ⟨_, rfl⟩

namespace Operation

variable {operation : Operation} {before after tags : List Tag}

theorem placeholderParameters_loaded (settings : Settings) (names : List String) :
    ∃ parameters, placeholderParameters (.ok settings) names = .ok parameters := by
  induction names with
  | nil => exact ⟨[], rfl⟩
  | cons name names ih =>
    obtain ⟨parameters, read⟩ := ih
    exact ⟨_, by rw [placeholderParameters, read]; rfl⟩

/-! ### One tag -/

theorem inTagIfUnknown_ofCause {name : String} {known : Option String}
    (kind : cause.kind = .malformedTag) (said : known = none ∨ known = some name) :
    Failure.inTagIfUnknown name (.ofCause cause known) = .ofCause cause (some name) := by
  rcases said with rfl | rfl
  all_goals
    simp [Failure.inTagIfUnknown, Failure.mapMalformed, Failure.ofCause, TagError.ofCause, kind]

/-- A faulty tag changes nothing; its fault may or may not name it already. -/
theorem applyTag_faulty (load : Settings.Loaded) (operation : Operation)
    (faulty : tag.Faulty cause) :
    ∃ known, (known = none ∨ known = some tag.tagName) ∧
      operation.applyTag load tag = .stopped operation (.ofCause cause known) := by
  unfold applyTag
  cases faulty with
  | withoutMethod named types =>
    rw [Tag.role_of_tagName .path named rfl]
    exact ⟨_, .inr rfl, by simp only [applyPath, types]⟩
  | withoutName named name =>
    rw [Tag.role_of_tagName .parameter named rfl]
    exact ⟨_, .inr rfl, by simp only [Parameter.ofTag_unnamed load name, orStop]⟩
  | parameterType named name given type =>
    rw [Tag.role_of_tagName .parameter named rfl]
    exact ⟨_, .inr rfl, by simp only [Parameter.ofTag_of_faulty load name given type, orStop]⟩
  | shorthand named refused =>
    rw [Tag.role_of_tagName .shorthand named rfl]
    exact ⟨_, .inr (congrArg some named.symm),
      by simp only [Parameter.ofShorthand_refused load refused, orStop]⟩
  | responseType named type =>
    -- This reader does not know which tag it reads for.
    rw [Tag.role_of_tagName .responseType named rfl]
    exact ⟨none, .inl rfl, by simp only [TypeRef.ofTypes_of_faulty load type, orStop]⟩
  | statusCode named uncoded =>
    rw [Tag.role_of_tagName .errorMessage named rfl]
    exact ⟨_, .inr rfl, by simp only [ErrorMessage.ofTag_uncoded uncoded, orStop]⟩

theorem stops_of_faulty (load : Settings.Loaded) (faulty : tag.Faulty cause) :
    tag.Stops load (.ofCause cause (some tag.tagName)) := by
  intro operation
  obtain ⟨known, said, stopped⟩ := applyTag_faulty load operation faulty
  exact ⟨operation, _, stopped, inTagIfUnknown_ofCause faulty.kind said⟩

theorem orStop_of_read {α : Type} {value : Except Failure α} {next : α → Operation}
    (read : ∃ result, value = .ok result) : (operation.orStop value next).failure = none := by
  obtain ⟨result, rfl⟩ := read
  rfl

theorem passes_of_sound (settings : Settings) (sound : ¬ tag.Malformed) :
    tag.Passes (.ok settings) := by
  intro operation
  unfold applyTag
  cases role : tag.role with
  | path =>
    obtain ⟨parameters, read⟩ :=
      placeholderParameters_loaded settings (PathTemplate.placeholders tag.text)
    cases types : tag.types with
    | nil => exact absurd ⟨_, .withoutMethod (Tag.tagName_eq role rfl) types⟩ sound
    | cons method others =>
      simp only [applyPath, types, read]
      rfl
  | parameter =>
    obtain ⟨shape, read⟩ := Parameter.ofTag_classifying (Tag.tagName_eq role rfl) sound
    exact orStop_of_read (read.loaded settings)
  | shorthand =>
    obtain ⟨shape, read⟩ := Parameter.ofShorthand_classifying (Tag.tagName_eq role rfl) sound
    exact orStop_of_read (read.loaded settings)
  | responseType =>
    have read := Tag.ofTypes_classifying (Tag.tagName_eq role rfl) sound
    exact orStop_of_read (read.loaded settings)
  | errorMessage =>
    by_cases coded : tag.HasStatusCode
    · exact orStop_of_read (ErrorMessage.ofTag_coded coded)
    · exact absurd ⟨_, .statusCode (Tag.tagName_eq role rfl) coded⟩ sound
  | summary | notes | unrecognized => rfl

theorem applyPath_log (load : Settings.Loaded) (operation : Operation) (tag : Tag) :
    (operation.applyPath load tag).log = [] := by
  unfold applyPath
  split
  · rfl
  · dsimp only
    split <;> rfl

theorem applyTag_log (load : Settings.Loaded) (operation : Operation) (tag : Tag) :
    (operation.applyTag load tag).log = Tag.ignored [tag] := by
  have silent : ∀ {role : TagRole} {name : String}, tag.role = role → role.tagName? = some name →
      Tag.ignored [tag] = [] := by
    intro role name isRole own
    simp [Tag.ignored, Tag.tagName_eq isRole own, TagRole.mem_recognized own]
  have stops : ∀ {α : Type} (value : Except Failure α) (next : α → Operation),
      (operation.orStop value next).log = [] := by
    intro α value next
    cases value <;> rfl
  unfold applyTag
  cases role : tag.role with
  | path =>
    rw [silent role rfl]
    exact applyPath_log load operation tag
  | parameter | shorthand | responseType | errorMessage =>
    rw [silent role rfl]
    exact stops _ _
  | summary =>
    rw [silent role rfl]
    rfl
  | notes =>
    rw [silent role rfl]
    cases load <;> rfl
  | unrecognized =>
    have unknown := Tag.not_recognized_of_role role
    simp [Tag.ignored, unknown]

/-! ### Lists of tags -/

theorem ignored_append (before after : List Tag) :
    Tag.ignored (before ++ after) = Tag.ignored before ++ Tag.ignored after := by
  simp [Tag.ignored]

theorem applyTags_append (load : Settings.Loaded) (operation : Operation)
    (before after : List Tag) :
    operation.applyTags load (before ++ after) =
      (operation.applyTags load before).andThen fun mid => mid.applyTags load after := by
  induction before generalizing operation with
  | nil => rfl
  | cons tag before ih =>
    rw [List.cons_append, applyTags, applyTags, Outcome.andThen_assoc]
    simp only [ih]

theorem applyTags_pass (operation : Operation) (pass : ∀ tag ∈ tags, tag.Passes load) :
    (operation.applyTags load tags).failure = none ∧
    (operation.applyTags load tags).log = Tag.ignored tags := by
  induction tags generalizing operation with
  | nil => exact ⟨rfl, rfl⟩
  | cons tag tags ih =>
    have through := pass tag List.mem_cons_self operation
    have named : ((operation.applyTag load tag).mapFailure
        (Failure.inTagIfUnknown tag.tagName)).failure = none := by
      rw [Outcome.mapFailure, through, Option.map_none]
    obtain ⟨restThrough, restLog⟩ := ih (operation.applyTag load tag).state
      fun later member => pass later (List.mem_cons_of_mem _ member)
    rw [applyTags, Outcome.andThen_of_success named]
    refine ⟨restThrough, ?_⟩
    calc
      _ = Tag.ignored [tag] ++ Tag.ignored tags := by
        rw [← applyTag_log load operation tag, ← restLog]
        rfl
      _ = Tag.ignored (tag :: tags) := (ignored_append [tag] tags).symm

theorem applyTags_stops (operation : Operation) (after : List Tag)
    (pass : ∀ earlier ∈ before, earlier.Passes load) (stops : tag.Stops load failure) :
    (operation.applyTags load (before ++ tag :: after)).failure = some failure ∧
    (operation.applyTags load (before ++ tag :: after)).log = Tag.ignored before := by
  obtain ⟨through, log⟩ := applyTags_pass operation pass
  obtain ⟨state, own, stopped, named⟩ := stops (operation.applyTags load before).state
  have failed : (operation.applyTags load before).state.applyTags load (tag :: after) =
      .stopped state failure := by
    rw [applyTags, stopped, ← named]
    rfl
  rw [applyTags_append, Outcome.andThen_of_success through, failed]
  exact ⟨rfl, by rw [← log]; exact List.append_nil _⟩

/-! ### Declarations -/

theorem ofDeclaration_stopped (declaration : Declaration) (api : ApiContext)
    (tags : declaration.tags = before ++ tag :: after)
    (pass : ∀ earlier ∈ before, earlier.Passes load) (stops : tag.Stops load failure) :
    ofDeclaration load declaration api =
      ⟨Tag.ignored before, .error (failure.inDeclaration declaration.path)⟩ := by
  obtain ⟨failed, log⟩ := applyTags_stops (ofApi api) after pass stops
  unfold ofDeclaration
  rw [tags]
  simp only [failed, log]

theorem ofDeclaration_malformed (declaration : Declaration) (api : ApiContext)
    (tags : declaration.tags = before ++ tag :: after)
    (pass : ∀ earlier ∈ before, earlier.Passes load) (faulty : tag.Faulty cause) :
    ofDeclaration load declaration api =
      ⟨Tag.ignored before,
        .error (.tag ⟨.malformedTag, cause.message, some tag.tagName, declaration.path⟩)⟩ := by
  rw [ofDeclaration_stopped declaration api tags pass (stops_of_faulty load faulty)]
  simp [Failure.inDeclaration, Failure.mapMalformed, Failure.ofCause, TagError.ofCause, faulty.kind]

theorem ofDeclaration_of_sound (settings : Settings) (declaration : Declaration) (api : ApiContext)
    (sound : ∀ tag ∈ declaration.tags, ¬ tag.Malformed) :
    ∃ operation, (ofDeclaration (.ok settings) declaration api).result = .ok operation := by
  obtain ⟨through, _⟩ := applyTags_pass (ofApi api)
    fun tag member => passes_of_sound settings (sound tag member)
  unfold ofDeclaration
  simp only [through]
  exact ⟨_, rfl⟩

theorem ofDeclaration_stops (settings : Settings) (declaration : Declaration) (api : ApiContext)
    (tags : declaration.tags = before ++ tag :: after)
    (sound : ∀ earlier ∈ before, ¬ earlier.Malformed) (faulty : tag.Faulty cause) :
    ofDeclaration (.ok settings) declaration api =
      ⟨Tag.ignored before,
        .error (.tag ⟨.malformedTag, cause.message, some tag.tagName, declaration.path⟩)⟩ :=
  ofDeclaration_malformed declaration api tags
    (fun earlier member => passes_of_sound settings (sound earlier member)) faulty

theorem sound_of_built {settings : Settings} {declaration : Declaration} {api : ApiContext}
    (built : (ofDeclaration (.ok settings) declaration api).result = .ok operation) :
    ∀ tag ∈ declaration.tags, ¬ tag.Malformed := by
  intro tag member malformed
  obtain ⟨before, first, after, tags, sound, cause, faulty⟩ :=
    Tag.exists_first ⟨tag, member, malformed⟩
  rw [ofDeclaration_stops settings declaration api tags sound faulty] at built
  cases built

/-- A declaration is refused for a malformed tag exactly if it has one; any other is built. The
error is the one of the first malformed tag: it names that tag and the declaration, and the log
holds one line for each unrecognized tag before it and nothing else. -/
theorem ofDeclaration_refused (settings : Settings) (declaration : Declaration) (api : ApiContext) :
    ((∃ error, (ofDeclaration (.ok settings) declaration api).result = .error (.tag error) ∧
        error.kind = .malformedTag) ↔ ∃ tag ∈ declaration.tags, tag.Malformed) ∧
    ((∃ operation, (ofDeclaration (.ok settings) declaration api).result = .ok operation) ↔
      ∀ tag ∈ declaration.tags, ¬ tag.Malformed) ∧
    ∀ before tag after cause, declaration.tags = before ++ tag :: after →
      (∀ earlier ∈ before, ¬ earlier.Malformed) → tag.Faulty cause →
      ofDeclaration (.ok settings) declaration api =
        ⟨(before.filter (·.tagName ∉ TagRole.recognized)).map fun tag => .ignoredTag tag.tagName,
          .error (.tag ⟨.malformedTag, cause.message, some tag.tagName, declaration.path⟩)⟩ := by
  have refused : (∃ tag ∈ declaration.tags, tag.Malformed) →
      ∃ error, (ofDeclaration (.ok settings) declaration api).result = .error (.tag error) ∧
        error.kind = .malformedTag := by
    intro malformed
    obtain ⟨before, tag, after, tags, sound, cause, faulty⟩ := Tag.exists_first malformed
    rw [ofDeclaration_stops settings declaration api tags sound faulty]
    exact ⟨_, rfl, rfl⟩
  have built : (¬ ∃ tag ∈ declaration.tags, tag.Malformed) →
      ∃ operation, (ofDeclaration (.ok settings) declaration api).result = .ok operation :=
    fun none => ofDeclaration_of_sound settings declaration api
      fun tag member malformed => none ⟨tag, member, malformed⟩
  refine ⟨⟨?_, refused⟩, ⟨?_, ?_⟩, ?_⟩
  · rintro ⟨error, failed, _⟩
    by_contra none
    obtain ⟨operation, succeeded⟩ := built none
    rw [failed] at succeeded
    cases succeeded
  · rintro ⟨operation, succeeded⟩ tag member malformed
    obtain ⟨error, failed, _⟩ := refused ⟨tag, member, malformed⟩
    rw [failed] at succeeded
    cases succeeded
  · exact fun sound => ofDeclaration_of_sound settings declaration api sound
  · exact fun before tag after cause tags sound faulty =>
      ofDeclaration_stops settings declaration api tags sound faulty

/-- A method with two malformed tags after a tag that is ignored. -/
def twiceMalformed : Declaration where
  type := "method"
  tags :=
    [⟨"deprecated", "", none, []⟩, ⟨"path", "/widgets", none, ["GET"]⟩,
     ⟨"error_message", "", some "4_", []⟩, ⟨"response_type", "", none, ["<>"]⟩]
  path := some "Widgets#index"

theorem ofDeclaration_refused_twiceMalformed :
    (∃ tag ∈ twiceMalformed.tags, tag.Malformed) ∧
    ofDeclaration (.ok Settings.standard) twiceMalformed ⟨none, none⟩ =
      ⟨[.ignoredTag "deprecated"],
        .error (.tag ⟨.malformedTag, "status code '4_' is not an integer", some "error_message",
          some "Widgets#index"⟩)⟩ := by
  have faulty : Tag.Faulty ⟨"error_message", "", some "4_", []⟩ (.statusCode (some "4_")) := by
    refine .statusCode rfl ?_
    rintro ⟨slot, given, numeral, of⟩
    obtain rfl := Option.some.inj given
    have read := Text.readInt?_eq_some_iff.mpr ⟨numeral, of, rfl⟩
    have unread : Text.readInt? "4_".toList = none := by decide
    rw [unread] at read
    cases read
  have sound : ∀ earlier ∈ [⟨"deprecated", "", none, []⟩, ⟨"path", "/widgets", none, ["GET"]⟩],
      ¬ Tag.Malformed earlier := by
    rintro earlier member ⟨cause, faulty⟩
    simp only [List.mem_cons, List.not_mem_nil, or_false] at member
    rcases member with rfl | rfl
    all_goals cases faulty
    all_goals simp_all
  have refused := (ofDeclaration_refused Settings.standard twiceMalformed ⟨none, none⟩).2.2
    [⟨"deprecated", "", none, []⟩, ⟨"path", "/widgets", none, ["GET"]⟩] _
    [⟨"response_type", "", none, ["<>"]⟩] _ rfl sound faulty
  have message : (TagError.Cause.statusCode (some "4_")).message =
      "status code '4_' is not an integer" := by decide +kernel
  rw [message] at refused
  exact ⟨⟨_, .tail _ (.tail _ (.head _)), _, faulty⟩, refused⟩

end Operation

end DocTags
