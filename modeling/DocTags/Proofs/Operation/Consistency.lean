import DocTags.Operation.Action
import DocTags.Proofs.Operation.Malformed
import DocTags.Proofs.Operation.Writing
import DocTags.Proofs.Session

/-!
# What holds of an operation at any time

Tags may be taken in one by one, with parameters sorted and added in between and malformed tags on
the way. After each of these actions the operation belongs to its API, its path and method are given
together, and the model names end with the model of the response type. `Takes.consistent` is the
step for one tag that goes through; a tag that does not go through leaves the operation as it was.
-/

namespace DocTags

/-- A tag that gives an operation its path and its method. -/
def Tag.Locates (tag : Tag) : Prop := tag.tagName = "path" ∧ tag.types ≠ []

namespace Tag

variable {tag : Tag} {tags : List Tag}

theorem not_locates_of_ne {name : String} (named : tag.tagName = name) (different : name ≠ "path") :
    ¬ tag.Locates :=
  fun locates => different (named ▸ locates.1)

theorem Malformed.not_locates (malformed : tag.Malformed) : ¬ tag.Locates := by
  obtain ⟨cause, faulty⟩ := malformed
  cases faulty with
  | withoutMethod _ types => exact fun locates => locates.2 types
  | withoutName named _ | parameterType named _ _ _ | shorthand named _ | responseType named _
  | statusCode named _ => exact not_locates_of_ne named (by decide)

theorem forall_not_locates_snoc (unlocated : ¬ tag.Locates) :
    (∀ earlier ∈ tags ++ [tag], ¬ earlier.Locates) ↔ ∀ earlier ∈ tags, ¬ earlier.Locates := by
  simp [or_imp, forall_and, unlocated]

end Tag

namespace Operation

/-- What is so after the given tags have been taken in, or refused, one by one. -/
structure Consistent (settings : Settings) (api : ApiContext) (tags : List Tag)
    (operation : Operation) : Prop where
  api : operation.api = api
  paired : operation.path = none ↔ operation.httpMethod = none
  unlocated : operation.path = none ↔ ∀ tag ∈ tags, ¬ tag.Locates
  references : ∀ name ∈ operation.modelNames, classify settings name = .reference
  response : ∀ type, operation.responseType = some type → type.kind = .reference →
    operation.modelNames.getLast? = some type.name

variable {settings : Settings} {api : ApiContext} {tags : List Tag} {tag : Tag}
  {operation next : Operation}

/-! ### One tag -/

/-- A tag that gives no path leaves it open whether there is one. -/
theorem Consistent.snoc (so : Consistent settings api tags operation) (unlocated : ¬ tag.Locates) :
    Consistent settings api (tags ++ [tag]) operation :=
  ⟨so.api, so.paired, so.unlocated.trans (Tag.forall_not_locates_snoc unlocated).symm,
    so.references, so.response⟩

theorem kind_of_ofTypes {types : List String} {type : TypeRef}
    (read : TypeRef.ofTypes (.ok settings) types = .ok type) :
    type.kind = classify settings type.name := by
  cases types with
  | nil => cases read
  | cons raw others =>
    unfold TypeRef.ofTypes TypeRef.parse at read
    dsimp only at read
    split at read
    · cases read
    · rw [← Except.ok.inj read]

theorem Consistent.setResponseType {type : TypeRef}
    (so : Consistent settings api tags operation)
    (classified : type.kind = classify settings type.name) :
    Consistent settings api tags (operation.setResponseType type) := by
  have mentioned : ∀ name, type.modelName? = some name →
      name = type.name ∧ type.kind = .reference := by
    intro name given
    rw [TypeRef.modelName?, Option.ite_none_right_eq_some, TypeRef.isReference, beq_iff_eq] at given
    exact ⟨(Option.some.inj given.2).symm, given.1⟩
  refine ⟨so.api, so.paired, so.unlocated, ?_, ?_⟩
  · intro name member
    rcases List.mem_append.mp member with earlier | added
    · exact so.references name earlier
    · obtain ⟨rfl, reference⟩ := mentioned name (Option.mem_toList.mp added)
      rw [← classified, reference]
  · intro other set reference
    obtain rfl : type = other := Option.some.inj set
    have named : type.modelName? = some type.name := by
      simp [TypeRef.modelName?, TypeRef.isReference, reference]
    rw [Operation.setResponseType, named]
    exact List.getLast?_concat

theorem Takes.consistent (so : Consistent settings api tags operation)
    (takes : Takes (.ok settings) operation tag next) :
    Consistent settings api (tags ++ [tag]) next := by
  cases takes with
  | path named types _ =>
    have locates : tag.Locates := ⟨named, by simp [types]⟩
    refine ⟨so.api, by simp, ?_, so.references, so.response⟩
    constructor
    · intro absent
      cases absent
    · intro unlocated
      exact absurd locates (unlocated tag (List.mem_append_right _ List.mem_cons_self))
  | parameter named _ | shorthand named _ | errorMessage named _ | summary named | notes named _ =>
    have kept := so.snoc (Tag.not_locates_of_ne named (by decide))
    exact ⟨kept.api, kept.paired, kept.unlocated, kept.references, kept.response⟩
  | responseType named read =>
    have kept := so.snoc (Tag.not_locates_of_ne named (by decide))
    exact kept.setResponseType (kind_of_ofTypes read)
  | unrecognized unknown =>
    exact so.snoc fun locates => unknown (locates.1 ▸ by decide)

theorem applyTag_consistent (so : Consistent settings api tags operation) (tag : Tag) :
    Consistent settings api (tags ++ [tag]) (operation.applyTag (.ok settings) tag).state := by
  by_cases malformed : tag.Malformed
  · obtain ⟨cause, faulty⟩ := malformed
    obtain ⟨known, _, stopped⟩ := applyTag_faulty (.ok settings) operation faulty
    rw [stopped]
    exact so.snoc (Tag.Malformed.not_locates ⟨cause, faulty⟩)
  · have through := passes_of_sound settings malformed operation
    exact (applyTag_takes through).consistent so

/-! ### Actions -/

theorem Consistent.withParameters (so : Consistent settings api tags operation)
    (parameters : List Parameter) :
    Consistent settings api tags { operation with parameters := parameters } :=
  ⟨so.api, so.paired, so.unlocated, so.references, so.response⟩

/-- The tag that an action takes in. -/
def Action.tag? : Action → Option Tag
  | .parseTag (.ok tag) => some tag
  | _ => none

theorem perform_consistent (so : Consistent settings api tags operation) (action : Action) :
    Consistent settings api (tags ++ action.tag?.toList)
      (operation.perform (.ok settings) action).state := by
  have untouched : Consistent settings api (tags ++ []) operation := by
    rw [List.append_nil]
    exact so
  cases action with
  | parseTag tag =>
    cases tag with
    | ok tag => exact applyTag_consistent so tag
    | error failure => exact untouched
  | sort => exact untouched.withParameters _
  | appendFormat => exact untouched.withParameters _
  | nickname | summary | legacy | v2 => exact untouched

theorem consistent_ofApi (settings : Settings) (api : ApiContext) :
    Consistent settings api [] (ofApi api) :=
  ⟨rfl, .rfl, by simp [ofApi], by simp [ofApi], nofun⟩

/-! ### Documents -/

/-- The failure to write an operation that has no path. -/
def withoutPath : Failure := .tag ⟨.general, "operation is missing a @path tag", some "path", none⟩

theorem endpoint_of_paired (paired : operation.path = none ↔ operation.httpMethod = none) :
    (operation.path = none ∧ operation.endpoint = .error withoutPath) ∨
    (operation.path ≠ none ∧ ∃ path method, operation.endpoint = .ok (path, method)) := by
  unfold endpoint
  cases path : operation.path with
  | none => exact .inl ⟨rfl, rfl⟩
  | some text =>
    cases method : operation.httpMethod with
    | none => simp [path, method] at paired
    | some word => exact .inr ⟨by simp, text, word, rfl⟩

theorem documents_of_paired (settings : Settings)
    (paired : operation.path = none ↔ operation.httpMethod = none) :
    (operation.nickname = .error withoutPath ↔ operation.path = none) ∧
    (operation.legacy (.ok settings) = .error withoutPath ↔ operation.path = none) ∧
    (operation.v2 (.ok settings) = .error withoutPath ↔ operation.path = none) := by
  rcases endpoint_of_paired paired with ⟨absent, unlocated⟩ | ⟨present, path, method, located⟩
  · have unnamed : operation.nickname = .error withoutPath := by rw [nickname, unlocated]
    have refused : operation.legacy (.ok settings) = .error withoutPath := by
      simp only [legacy, unnamed]
    have refusedToo : operation.v2 (.ok settings) = .error withoutPath := by
      rw [v2, unlocated]
      rfl
    simp [absent, unnamed, refused, refusedToo]
  · have named : operation.nickname ≠ .error withoutPath := by
      rw [nickname, located]
      intro failed
      cases failed
    have written : operation.legacy (.ok settings) ≠ .error withoutPath := by
      obtain ⟨document, written⟩ := legacy_written settings located
      rw [written]
      intro failed
      cases failed
    have notRefused : operation.v2 (.ok settings) ≠ .error withoutPath := by
      -- What else can go wrong is a type without a name, and that is another kind of error.
      intro failed
      obtain ⟨_, _, _, _, _, other⟩ := v2_failure located failed
      cases other
    simp [present, named, written, notRefused]

/-- After each action of a session an operation belongs to its API, has a path exactly if it has a
method and exactly if a tag gave one, and can be named and written exactly then; its model names are
names of models, the last one that of the response type where this is a model. -/
theorem run_consistent (settings : Settings) (session : Session) (api : ApiContext)
    (actions : List Action) (position : Nat) (loaded : session.settings = .ok settings)
    (within : position < actions.length) :
    ∃ reply, (session.run perform (ofApi api) (actions.map .act))[position]? = some reply ∧
      Consistent settings api ((actions.take (position + 1)).filterMap Action.tag?) reply.state ∧
      (reply.state.nickname = .error withoutPath ↔ reply.state.path = none) ∧
      (reply.state.legacy (.ok settings) = .error withoutPath ↔ reply.state.path = none) ∧
      (reply.state.v2 (.ok settings) = .error withoutPath ↔ reply.state.path = none) := by
  have step : ∀ before operation action,
      Consistent settings api (before.filterMap Action.tag?) operation →
      Consistent settings api ((before ++ [action]).filterMap Action.tag?)
        (operation.perform (.ok settings) action).state := by
    intro before operation action so
    have next := perform_consistent so action
    rwa [List.filterMap_append, List.filterMap_cons, List.filterMap_nil]
  have start : Consistent settings api ([].filterMap Action.tag?) (ofApi api) :=
    consistent_ofApi settings api
  obtain ⟨reply, answered, so⟩ := Session.run_invariant
    (fun before operation => Consistent settings api (before.filterMap Action.tag?) operation)
    step loaded start within
  rw [List.nil_append] at so
  exact ⟨reply, answered, so, documents_of_paired settings so.paired⟩

/-- A path that is refused, a response type, and a path that is taken in. -/
def lateLocation : List Action :=
  [.parseTag (.ok ⟨"path", "/widgets", none, []⟩),
   .parseTag (.ok ⟨"response_type", "", none, ["Array<Widget>"]⟩), .sort,
   .parseTag (.ok ⟨"path", "/widgets/{id}", none, ["GET"]⟩)]

def unconfigured : Session := ⟨⟨[], none⟩, none⟩

theorem run_consistent_lateLocation :
    unconfigured.settings = .ok Settings.standard ∧
    ∃ early late,
      (unconfigured.run perform (ofApi ⟨none, none⟩) (lateLocation.map .act))[1]? = some early ∧
      (unconfigured.run perform (ofApi ⟨none, none⟩) (lateLocation.map .act))[3]? = some late ∧
      early.state.nickname = .error withoutPath ∧
      early.state.modelNames.getLast? = some "Widget" ∧
      late.state.httpMethod ≠ none ∧
      late.state.v2 (.ok Settings.standard) ≠ .error withoutPath := by
  have loaded : unconfigured.settings = .ok Settings.standard := rfl
  obtain ⟨_, answered, early, unnamed, _⟩ :=
    run_consistent _ unconfigured ⟨none, none⟩ lateLocation 1 loaded (by decide)
  obtain rfl := Option.some.inj answered
  obtain ⟨_, answered, late, _, _, refused⟩ :=
    run_consistent _ unconfigured ⟨none, none⟩ lateLocation 3 loaded (by decide)
  obtain rfl := Option.some.inj answered
  have located : Tag.Locates ⟨"path", "/widgets/{id}", none, ["GET"]⟩ := ⟨rfl, nofun⟩
  have present : ¬ ∀ tag ∈ lateLocation.filterMap Action.tag?, ¬ tag.Locates :=
    fun none => none _ (.tail _ (.tail _ (.head _))) located
  refine ⟨loaded, _, _, rfl, rfl, unnamed.mpr rfl, early.response _ rfl rfl, ?_, ?_⟩
  · exact fun absent => present (late.unlocated.mp (late.paired.mpr absent))
  · exact fun failed => present (late.unlocated.mp (refused.mp failed))

end Operation

end DocTags
