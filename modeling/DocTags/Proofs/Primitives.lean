import DocTags.Proofs.Model.Closure
import DocTags.Proofs.Model.Tags
import Mathlib.Data.List.Forall2

/-!
# More primitive types

Settings with more primitive types turn references into primitive types and change nothing else.
Each tag is read to the same value but for the kind of a type, so operations differ only in kinds
and in the models that they name, and models reach fewer names.
-/

namespace DocTags

/-- The same settings, perhaps with more primitive types. -/
structure Settings.AddsPrimitives (settings richer : Settings) : Prop where
  primitiveTypes : ∀ name ∈ settings.primitiveTypes, name ∈ richer.primitiveTypes
  produces : richer.produces = settings.produces
  notesLineBreak : richer.notesLineBreak = settings.notesLineBreak
  formatValues : richer.formatValues = settings.formatValues

/-- The same type, perhaps no longer a reference. -/
structure TypeRef.Demoted (type other : TypeRef) : Prop where
  name : other.name = type.name
  array : other.array = type.array
  kind : other.kind = .reference → type.kind = .reference

def Parameter.Demoted (parameter other : Parameter) : Prop :=
  ∃ type, parameter.type.Demoted type ∧ other = { parameter with type }

def Property.Demoted (property other : Property) : Prop :=
  ∃ type, property.type.Demoted type ∧ other = { property with type }

structure Operation.Demoted (operation other : Operation) : Prop where
  api : other.api = operation.api
  path : other.path = operation.path
  httpMethod : other.httpMethod = operation.httpMethod
  summary : other.summary = operation.summary
  notes : other.notes = operation.notes
  errorMessages : other.errorMessages = operation.errorMessages
  parameters : List.Forall₂ Parameter.Demoted operation.parameters other.parameters
  responseType : Option.Rel TypeRef.Demoted operation.responseType other.responseType
  modelNames : other.modelNames.Sublist operation.modelNames

structure Model.Demoted (model other : Model) : Prop where
  id : other.id = model.id
  properties : List.Forall₂ Property.Demoted model.properties other.properties

variable {settings richer : Settings}

/-! ### Types -/

namespace TypeRef

theorem classify_demoted (adds : settings.AddsPrimitives richer) {name : String}
    (reference : classify richer name = .reference) : classify settings name = .reference := by
  unfold classify at reference ⊢
  split at reference
  · cases reference
  · rename_i unlisted
    rw [if_neg fun listed => unlisted (adds.primitiveTypes name listed)]
    exact reference

theorem Classifying.demoted {α : Type} {read : Settings.Loaded → Except Failure α}
    {build : TypeRef → α} {value other : α} (classifying : Classifying read build)
    (adds : settings.AddsPrimitives richer) (known : read (.ok settings) = .ok value)
    (knownOther : read (.ok richer) = .ok other) :
    ∃ type demoted, type.Demoted demoted ∧ value = build type ∧ other = build demoted := by
  obtain ⟨name, array, same⟩ := classifying
  refine ⟨⟨name, array, classify settings name⟩, ⟨name, array, classify richer name⟩,
    ⟨rfl, rfl, classify_demoted adds⟩, ?_, ?_⟩
  · exact Except.ok.inj (known.symm.trans (same (.ok settings)))
  · exact Except.ok.inj (knownOther.symm.trans (same (.ok richer)))

theorem Demoted.isReference {type other : TypeRef} (demoted : type.Demoted other)
    (reference : other.isReference = true) : type.isReference = true :=
  beq_iff_eq.mpr (demoted.kind (beq_iff_eq.mp reference))

theorem Demoted.modelName? {type other : TypeRef} {name : String} (demoted : type.Demoted other)
    (refers : other.modelName? = some name) : type.modelName? = some name := by
  unfold TypeRef.modelName? at refers ⊢
  split at refers
  · rename_i reference
    rw [if_pos (demoted.isReference reference), ← demoted.name]
    exact refers
  · cases refers

theorem modelNames_sublist {types others : List TypeRef}
    (demoted : List.Forall₂ Demoted types others) :
    ((others.filter (·.isReference)).map (·.name)).Sublist
      ((types.filter (·.isReference)).map (·.name)) := by
  induction demoted with
  | nil => exact .slnil
  | @cons type other types others head tail ih =>
    rw [List.filter_cons, List.filter_cons]
    split
    · rename_i reference
      rw [if_pos (head.isReference reference), List.map_cons, List.map_cons, head.name]
      exact ih.cons_cons _
    · split
      · exact ih.cons _
      · exact ih

end TypeRef

/-! ### Lists that are read twice -/

theorem forall₂_of_read {α β γ : Type} {related : β → γ → Prop} {items : List α} {values : List β}
    {others : List γ} {read : α → Except Failure β} {readOther : α → Except Failure γ}
    (known : items.map read = values.map .ok) (knownOther : items.map readOther = others.map .ok)
    (each : ∀ item ∈ items, ∀ value other, read item = .ok value → readOther item = .ok other →
      related value other) : List.Forall₂ related values others := by
  induction items generalizing values others with
  | nil =>
    obtain rfl := List.map_eq_nil_iff.mp known.symm
    obtain rfl := List.map_eq_nil_iff.mp knownOther.symm
    exact .nil
  | cons item items ih =>
    obtain ⟨value, values, rfl, first, rest⟩ := List.map_eq_cons_iff.mp known.symm
    obtain ⟨other, others, rfl, firstOther, restOther⟩ := List.map_eq_cons_iff.mp knownOther.symm
    refine .cons (each item List.mem_cons_self _ _ first.symm firstOther.symm) ?_
    exact ih rest.symm restOther.symm fun item member => each item (List.mem_cons_of_mem _ member)

theorem rel_getLast? {α β : Type} {related : α → β → Prop} {values : List α} {others : List β}
    (each : List.Forall₂ related values others) :
    Option.Rel related values.getLast? others.getLast? := by
  have reversed := List.forall₂_reverse_iff.mpr each
  rw [List.getLast?_eq_head?_reverse, List.getLast?_eq_head?_reverse]
  generalize values.reverse = values at reversed ⊢
  generalize others.reverse = others at reversed ⊢
  cases reversed with
  | nil => exact .none
  | cons last _ => exact .some last

theorem exists_related {α β : Type} {related : α → β → Prop} {values : List α} {others : List β}
    (each : List.Forall₂ related values others) {other : β} (member : other ∈ others) :
    ∃ value ∈ values, related value other := by
  induction each with
  | nil => cases member
  | cons first _ ih =>
    rcases List.mem_cons.mp member with rfl | later
    · exact ⟨_, List.mem_cons_self, first⟩
    · obtain ⟨value, inValues, held⟩ := ih later
      exact ⟨value, List.mem_cons_of_mem _ inValues, held⟩

/-! ### Parameters -/

namespace Parameter

variable {parameter other : Parameter}

theorem demoted_of_classifying {read : Settings.Loaded → Except Failure Parameter}
    {shape : Parameter} (classifying : TypeRef.Classifying read fun type => { shape with type })
    (adds : settings.AddsPrimitives richer) (known : read (.ok settings) = .ok parameter)
    (knownOther : read (.ok richer) = .ok other) : parameter.Demoted other := by
  obtain ⟨type, demoted, changed, rfl, rfl⟩ := classifying.demoted adds known knownOther
  exact ⟨demoted, changed, rfl⟩

theorem ofPlaceholder_classifying (name : String) :
    ∃ shape : Parameter,
      TypeRef.Classifying (ofPlaceholder · name) fun type => { shape with type } := by
  obtain ⟨shape, known⟩ : ∃ shape, ofPlaceholder (.ok .standard) name = .ok shape := ⟨_, rfl⟩
  refine ⟨shape, "string", false, fun load => ?_⟩
  obtain rfl := Except.ok.inj known
  cases load <;> rfl

theorem format_demoted (adds : settings.AddsPrimitives richer)
    (known : format (.ok settings) = .ok parameter) (knownOther : format (.ok richer) = .ok other) :
    parameter.Demoted other := by
  obtain rfl := Except.ok.inj known
  obtain rfl := Except.ok.inj knownOther
  rw [adds.formatValues]
  exact ⟨⟨"string", false, classify richer "string"⟩,
    ⟨rfl, rfl, TypeRef.classify_demoted adds⟩, rfl⟩

/-- Sorting looks only at names, so it moves both lists in the same way. -/
theorem mergeSort_demoted {parameters others : List Parameter}
    (each : List.Forall₂ Demoted parameters others) :
    List.Forall₂ Demoted (parameters.mergeSort namesInOrder) (others.mergeSort namesInOrder) := by
  obtain ⟨sameLength, paired⟩ := List.forall₂_iff_zip.mp each
  have sorted : ∀ first ∈ parameters.zip others, ∀ second ∈ parameters.zip others,
      namesInOrder first.1 second.1 = namesInOrder first.2 second.2 := by
    intro first firstMember second secondMember
    obtain ⟨_, _, sameFirst⟩ := paired firstMember
    obtain ⟨_, _, sameSecond⟩ := paired secondMember
    rw [sameFirst, sameSecond]
    rfl
  -- Both lists are halves of one list of pairs, which either half sorts in the same way.
  have firsts := List.map_mergeSort (f := Prod.fst) (s := namesInOrder)
    (r := fun first second => namesInOrder first.1 second.1) (l := parameters.zip others)
    fun _ _ _ _ => rfl
  have seconds := List.map_mergeSort (f := Prod.snd) (s := namesInOrder)
    (r := fun first second => namesInOrder first.1 second.1) sorted
  rw [List.map_fst_zip sameLength.le] at firsts
  rw [List.map_snd_zip sameLength.ge] at seconds
  rw [← firsts, ← seconds, List.forall₂_map_left_iff, List.forall₂_map_right_iff, List.forall₂_same]
  exact fun pair member => paired ((List.mergeSort_perm _ _).mem_iff.mp member)

end Parameter

theorem Operation.placeholderParameters_eq_ok {load : Settings.Loaded} {names : List String}
    {parameters : List Parameter} (read : placeholderParameters load names = .ok parameters) :
    names.map (Parameter.ofPlaceholder load) = parameters.map .ok := by
  induction names generalizing parameters with
  | nil =>
    obtain rfl := Except.ok.inj read
    rfl
  | cons name names ih =>
    rw [placeholderParameters] at read
    cases first : Parameter.ofPlaceholder load name with
    | error failure =>
      rw [first] at read
      cases read
    | ok parameter =>
      cases later : placeholderParameters load names with
      | error failure =>
        rw [first, later] at read
        cases read
      | ok rest =>
        rw [first, later] at read
        obtain rfl := Except.ok.inj read
        rw [List.map_cons, List.map_cons, first, ih later]

theorem Tag.contribution_demoted {tag : Tag} {parameters others : List Parameter}
    (adds : settings.AddsPrimitives richer) (sound : ¬ tag.Malformed)
    (known : tag.contribution (.ok settings) = .ok parameters)
    (knownOther : tag.contribution (.ok richer) = .ok others) :
    List.Forall₂ Parameter.Demoted parameters others := by
  have single : ∀ {read : Settings.Loaded → Except Failure Parameter},
      (∃ shape : Parameter, TypeRef.Classifying read fun type => { shape with type }) →
      (read (.ok settings)).map ([·]) = .ok parameters →
      (read (.ok richer)).map ([·]) = .ok others →
      List.Forall₂ Parameter.Demoted parameters others := by
    rintro read ⟨shape, classifying⟩ known knownOther
    obtain ⟨parameter, first⟩ := classifying.loaded settings
    obtain ⟨other, second⟩ := classifying.loaded richer
    rw [first] at known
    rw [second] at knownOther
    obtain rfl := Except.ok.inj known
    obtain rfl := Except.ok.inj knownOther
    exact .cons (Parameter.demoted_of_classifying classifying adds first second) .nil
  unfold Tag.contribution at known knownOther
  split at known
  · rename_i named
    simp only [named] at knownOther
    refine forall₂_of_read (Operation.placeholderParameters_eq_ok known)
      (Operation.placeholderParameters_eq_ok knownOther) ?_
    intro name _ parameter other first second
    obtain ⟨shape, classifying⟩ := Parameter.ofPlaceholder_classifying name
    exact Parameter.demoted_of_classifying classifying adds first second
  · rename_i named
    simp only [named] at knownOther
    exact single (Parameter.ofTag_classifying named sound) known knownOther
  · rename_i named
    simp only [named] at knownOther
    exact single (Parameter.ofShorthand_classifying named sound) known knownOther
  · obtain rfl := Except.ok.inj known
    obtain rfl : [] = others := by simpa using knownOther
    exact .nil

namespace Operation

variable {declaration : Declaration} {api : ApiContext} {operation other : Operation}
  {tags : List Tag}

theorem Contributed.demoted {parameters others : List Parameter}
    (adds : settings.AddsPrimitives richer) (sound : ∀ tag ∈ tags, ¬ tag.Malformed)
    (contributed : Contributed (.ok settings) tags parameters)
    (contributedOther : Contributed (.ok richer) tags others) :
    List.Forall₂ Parameter.Demoted parameters others := by
  obtain ⟨contributions, read, rfl⟩ := contributed
  obtain ⟨contributionsOther, readOther, rfl⟩ := contributedOther
  refine List.rel_flatten (forall₂_of_read read readOther ?_)
  intro tag member first second known knownOther
  exact Tag.contribution_demoted adds (sound tag member) known knownOther

theorem Described.demoted (adds : settings.AddsPrimitives richer)
    (said : Described settings tags operation) (saidOther : Described richer tags other)
    (sound : ∀ tag ∈ tags, ¬ tag.Malformed) (sameApi : other.api = operation.api)
    (parameters : List.Forall₂ Parameter.Demoted operation.parameters other.parameters) :
    operation.Demoted other := by
  obtain ⟨types, read, responseType, modelNames⟩ := said.responses
  obtain ⟨typesOther, readOther, responseTypeOther, modelNamesOther⟩ := saidOther.responses
  have demoted : List.Forall₂ TypeRef.Demoted types typesOther := by
    refine forall₂_of_read read readOther ?_
    intro tag member type changed known knownOther
    obtain ⟨inTags, named⟩ := List.mem_filter.mp member
    have classifying := Tag.ofTypes_classifying (beq_iff_eq.mp named) (sound tag inTags)
    obtain ⟨_, _, fewer, rfl, rfl⟩ := classifying.demoted adds known knownOther
    exact fewer
  refine ⟨sameApi, saidOther.path.trans said.path.symm, ?_,
    saidOther.summary.trans said.summary.symm, ?_, ?_, parameters, ?_, ?_⟩
  · have wrapped := saidOther.httpMethod.trans said.httpMethod.symm
    exact Option.map_inj_right (fun _ _ => Option.some.inj) |>.mp wrapped
  · rw [saidOther.notes, said.notes, adds.notesLineBreak]
  · have wrapped := saidOther.errors.symm.trans said.errors
    exact (List.map_inj_right fun _ _ => Except.ok.inj).mp wrapped
  · rw [responseType, responseTypeOther]
    exact rel_getLast? demoted
  · rw [modelNames, modelNamesOther]
    exact TypeRef.modelNames_sublist demoted

theorem ofDeclaration_demoted (adds : settings.AddsPrimitives richer)
    (built : (ofDeclaration (.ok settings) declaration api).result = .ok operation)
    (builtOther : (ofDeclaration (.ok richer) declaration api).result = .ok other) :
    operation.Demoted other := by
  have sound := sound_of_built built
  obtain ⟨gathered, format, run, formatRead, rfl⟩ := ofDeclaration_gathers built
  obtain ⟨gatheredOther, formatOther, runOther, formatReadOther, rfl⟩ :=
    ofDeclaration_gathers builtOther
  have contributed := run.contributed.demoted adds sound runOther.contributed
  have formats := Parameter.format_demoted adds formatRead formatReadOther
  refine run.described.withParameters.demoted adds runOther.described.withParameters sound
    (runOther.api.trans run.api.symm) ?_
  exact List.rel_append (Parameter.mergeSort_demoted contributed) (.cons formats .nil)

end Operation

/-! ### Models -/

namespace Model

variable {models others : List Model} {model other : Model} {tags : List Tag}

theorem ofTags_demoted (adds : settings.AddsPrimitives richer)
    (built : ofTags (.ok settings) tags = .ok model)
    (builtOther : ofTags (.ok richer) tags = .ok other) : model.Demoted other := by
  obtain ⟨id, read⟩ := ofTags_eq_ok_iff.mp built
  obtain ⟨idOther, readOther⟩ := ofTags_eq_ok_iff.mp builtOther
  refine ⟨idOther.trans id.symm, forall₂_of_read read readOther ?_⟩
  intro tag member property demoted known knownOther
  have sound : ¬ ∃ cause, Property.Faulty tag cause := by
    rintro ⟨cause, faulty⟩
    rw [Property.ofTag_of_faulty _ faulty] at known
    cases known
  obtain ⟨shape, classifying⟩ := Property.ofTag_classifying sound
  obtain ⟨type, changed, fewer, rfl, rfl⟩ := classifying.demoted adds known knownOther
  exact ⟨changed, fewer, rfl⟩

theorem Demoted.referencedNames (demoted : model.Demoted other) :
    ∀ name ∈ other.referencedNames, name ∈ model.referencedNames := by
  intro name referenced
  obtain ⟨property, member, refers⟩ := mem_referencedNames.mp referenced
  obtain ⟨original, listed, type, changed, rfl⟩ := exists_related demoted.properties member
  exact mem_referencedNames.mpr ⟨original, listed, changed.modelName? refers⟩

theorem find?_demoted {name : String} (demoted : List.Forall₂ Demoted models others)
    (found : find? others name = some other) :
    ∃ model, find? models name = some model ∧ model.Demoted other := by
  induction demoted with
  | nil => cases found
  | @cons model changed models others head tail ih =>
    unfold find? at found ih ⊢
    rw [List.find?_cons] at found ⊢
    rw [← head.id]
    split at found
    · obtain rfl := Option.some.inj found
      exact ⟨model, rfl, head⟩
    · exact ih found

theorem reachableNames_demoted (demoted : List.Forall₂ Demoted models others)
    (changed : model.Demoted other) :
    other.reachableNames others ⊆ model.reachableNames models := by
  refine reachableNames_mono changed.id changed.referencedNames ?_
  rintro name next ⟨fewer, found, referenced⟩
  obtain ⟨behind, foundBehind, demotedBehind⟩ := find?_demoted demoted found
  exact ⟨behind, foundBehind, demotedBehind.referencedNames next referenced⟩

end Model

/-- Settings that only add primitive types build operations and models from the same tags. The
operation has the same fields but for the kinds of types and fewer model names, and each model
reaches no new name. -/
theorem Settings.addsPrimitives_demotes (settings richer : Settings)
    (adds : settings.AddsPrimitives richer) :
    (∀ declaration api,
      ((∃ operation, (Operation.ofDeclaration (.ok settings) declaration api).result =
        .ok operation) ↔
        ∃ other, (Operation.ofDeclaration (.ok richer) declaration api).result = .ok other) ∧
      ∀ operation other,
        (Operation.ofDeclaration (.ok settings) declaration api).result = .ok operation →
        (Operation.ofDeclaration (.ok richer) declaration api).result = .ok other →
        operation.Demoted other) ∧
    (∀ tags, (∃ model, Model.ofTags (.ok settings) tags = .ok model) ↔
      ∃ other, Model.ofTags (.ok richer) tags = .ok other) ∧
    ∀ (tagLists : List (List Tag)) (models others : List Model),
      tagLists.map (Model.ofTags (.ok settings)) = models.map .ok →
      tagLists.map (Model.ofTags (.ok richer)) = others.map .ok →
      List.Forall₂ (fun model other => other.reachableNames others ⊆ model.reachableNames models)
        models others := by
  refine ⟨fun declaration api => ⟨⟨?_, ?_⟩, ?_⟩, ?_, ?_⟩
  · rintro ⟨operation, built⟩
    exact Operation.ofDeclaration_of_sound richer declaration api (Operation.sound_of_built built)
  · rintro ⟨other, built⟩
    exact Operation.ofDeclaration_of_sound settings declaration api (Operation.sound_of_built built)
  · intro operation other built builtOther
    exact Operation.ofDeclaration_demoted adds built builtOther
  · intro tags
    rw [Model.ofTags_loaded_iff, Model.ofTags_loaded_iff]
  · intro tagLists models others built builtOther
    have demoted : List.Forall₂ Model.Demoted models others := by
      refine forall₂_of_read built builtOther ?_
      intro tags _ model other known knownOther
      exact Model.ofTags_demoted adds known knownOther
    exact demoted.imp fun model other changed => Model.reachableNames_demoted demoted changed

/-- The standard settings with one more primitive type. -/
def withMoney : Settings :=
  { Settings.standard with primitiveTypes := "Money" :: Settings.standard.primitiveTypes }

/-- A method that takes and gives amounts of money. -/
def transfer : Declaration where
  type := "method"
  tags :=
    [⟨"path", "/accounts/{id}", none, ["PUT"]⟩, ⟨"parameter", "", some "amount", ["Money"]⟩,
     ⟨"response_type", "", none, ["Receipt"]⟩, ⟨"response_type", "", none, ["Array<Money>"]⟩]
  path := none

/-- The tags of an account, and those of the amount that it holds. -/
def accountTags : List (List Tag) :=
  [[⟨"model", "Account", none, []⟩, ⟨"property", "", some "owner", ["Owner"]⟩,
    ⟨"property", "", some "balance", ["Money"]⟩],
   [⟨"model", "Money", none, []⟩, ⟨"property", "", some "currency", ["Currency"]⟩]]

theorem Settings.addsPrimitives_demotes_withMoney :
    Settings.standard.AddsPrimitives withMoney ∧
    (∃ operation other,
      (Operation.ofDeclaration (.ok Settings.standard) transfer ⟨none, none⟩).result =
        .ok operation ∧
      (Operation.ofDeclaration (.ok withMoney) transfer ⟨none, none⟩).result = .ok other ∧
      operation.modelNames = ["Receipt", "Money"] ∧ other.modelNames = ["Receipt"] ∧
      operation.Demoted other) ∧
    ∃ models others,
      accountTags.map (Model.ofTags (.ok Settings.standard)) = models.map .ok ∧
      accountTags.map (Model.ofTags (.ok withMoney)) = others.map .ok ∧
      models.map (·.reachableNames models) = [["Owner", "Money", "Currency"], ["Currency"]] ∧
      others.map (·.reachableNames others) = [["Owner"], ["Currency"]] ∧
      List.Forall₂ (fun model other => other.reachableNames others ⊆ model.reachableNames models)
        models others := by
  have adds : Settings.standard.AddsPrimitives withMoney :=
    ⟨fun _ => List.mem_cons_of_mem _, rfl, rfl, rfl⟩
  obtain ⟨operation, built, names⟩ : ∃ operation,
      (Operation.ofDeclaration (.ok Settings.standard) transfer ⟨none, none⟩).result =
        .ok operation ∧ operation.modelNames = ["Receipt", "Money"] := ⟨_, rfl, rfl⟩
  obtain ⟨other, builtOther, namesOther⟩ : ∃ other,
      (Operation.ofDeclaration (.ok withMoney) transfer ⟨none, none⟩).result = .ok other ∧
        other.modelNames = ["Receipt"] := ⟨_, rfl, rfl⟩
  obtain ⟨models, read, reached⟩ : ∃ models,
      accountTags.map (Model.ofTags (.ok Settings.standard)) = models.map .ok ∧
      models.map (·.reachableNames models) = [["Owner", "Money", "Currency"], ["Currency"]] :=
    ⟨[_, _], rfl, rfl⟩
  obtain ⟨others, readOther, reachedOther⟩ : ∃ others,
      accountTags.map (Model.ofTags (.ok withMoney)) = others.map .ok ∧
      others.map (·.reachableNames others) = [["Owner"], ["Currency"]] := ⟨[_, _], rfl, rfl⟩
  obtain ⟨operations, _, reachable⟩ := Settings.addsPrimitives_demotes _ _ adds
  refine ⟨adds, ⟨operation, other, built, builtOther, names, namesOther, ?_⟩,
    models, others, read, readOther, reached, reachedOther, ?_⟩
  · exact (operations transfer ⟨none, none⟩).2 operation other built builtOther
  · exact reachable accountTags models others read readOther

end DocTags
