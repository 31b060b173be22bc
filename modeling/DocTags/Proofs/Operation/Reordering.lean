import DocTags.Proofs.Operation.Description

/-!
# When the order of tags does not matter

Tags may be put in another order, and tags that are not recognized added or left out, without any
change to the operation, as long as two kinds of pairs keep their order: tags of one kind where the
last one counts or all are listed, and tags that contribute a parameter of one name. Every field of
an operation depends only on a selection of the tags in which any two are such a pair, and a
selection of that sort is the same list before and after.
-/

namespace DocTags

/-- Two tags stand in the same order in two lists, however often they are there. -/
def Tag.SameOrder (tag other : Tag) (first second : List Tag) : Prop :=
  first.filter (fun t => t = tag ∨ t = other) = second.filter (fun t => t = tag ∨ t = other)

/-- The parameters that a tag contributes. -/
def Tag.contributed (load : Settings.Loaded) (tag : Tag) : List Parameter :=
  (tag.contribution load).toOption.getD []

/-- Two tags contribute a parameter of one name. -/
def Tag.SharesName (load : Settings.Loaded) (tag other : Tag) : Prop :=
  ∃ parameter ∈ tag.contributed load, ∃ later ∈ other.contributed load, parameter.name = later.name

/-- The kinds of tags whose order among themselves counts. -/
def TagRole.ordered : List String :=
  ["path", "response_type", "error_message", "summary", "notes"]

/-- The same recognized tags in an order that differs only where it does not count. -/
structure Tag.Reordered (load : Settings.Loaded) (first second : List Tag) : Prop where
  perm : (first.filter (·.tagName ∈ TagRole.recognized)).Perm
    (second.filter (·.tagName ∈ TagRole.recognized))
  kinds : ∀ tag ∈ first, ∀ other ∈ first, tag ≠ other → tag.tagName = other.tagName →
    tag.tagName ∈ TagRole.ordered → tag.SameOrder other first second
  names : ∀ tag ∈ first, ∀ other ∈ first, tag ≠ other → tag.SharesName load other →
    tag.SameOrder other first second

variable {load : Settings.Loaded} {settings : Settings} {first second : List Tag}

/-! ### Selections of tags -/

/-- Lists in which every two tags stand in the same order are the same. -/
theorem Tag.eq_of_sameOrder (perm : first.Perm second)
    (order : ∀ tag ∈ first, ∀ other ∈ first, tag ≠ other → tag.SameOrder other first second) :
    first = second := by
  induction first generalizing second with
  | nil => exact perm.nil_eq
  | cons tag first ih =>
    cases second with
    | nil => exact absurd perm.length_eq (by simp)
    | cons head second =>
      have heads : tag = head := by
        refine Decidable.byContradiction fun different => ?_
        have member : head ∈ tag :: first := perm.mem_iff.mpr List.mem_cons_self
        have same := order tag List.mem_cons_self head member different
        rw [SameOrder, List.filter_cons_of_pos (by simp), List.filter_cons_of_pos (by simp)] at same
        exact different (List.cons.inj same).1
      subst heads
      have tails : ∀ tag ∈ first, ∀ other ∈ first, tag ≠ other →
          tag.SameOrder other first second := by
        intro left leftMember right rightMember different
        have same := order left (List.mem_cons_of_mem _ leftMember) right
          (List.mem_cons_of_mem _ rightMember) different
        rw [SameOrder, List.filter_cons, List.filter_cons] at same
        split at same
        · exact (List.cons.inj same).2
        · exact same
      rw [ih perm.cons_inv tails]

/-- A selection of recognized tags in which every two keep their order is the same list. -/
theorem Tag.Reordered.filter_eq (reordered : Tag.Reordered load first second)
    (isChosen : Tag → Bool)
    (recognized : ∀ tag, isChosen tag = true → tag.tagName ∈ TagRole.recognized)
    (order : ∀ tag ∈ first, ∀ other ∈ first, tag ≠ other → isChosen tag = true →
      isChosen other = true → tag.SameOrder other first second) :
    first.filter isChosen = second.filter isChosen := by
  have known : ∀ tags : List Tag, (tags.filter (·.tagName ∈ TagRole.recognized)).filter isChosen =
      tags.filter isChosen := by
    intro tags
    rw [List.filter_filter]
    apply List.filter_congr
    intro tag _
    cases chosen : isChosen tag with
    | true => simp [recognized tag chosen]
    | false => rfl
  have pairs : ∀ (tag other : Tag) (tags : List Tag), isChosen tag = true → isChosen other = true →
      (tags.filter isChosen).filter (fun t => t = tag ∨ t = other) =
        tags.filter (fun t => t = tag ∨ t = other) := by
    intro tag other tags chosen chosenOther
    rw [List.filter_filter]
    apply List.filter_congr
    intro t _
    by_cases either : t = tag ∨ t = other
    · rcases either with rfl | rfl
      · simp [chosen]
      · simp [chosenOther]
    · simp [either]
  apply Tag.eq_of_sameOrder
  · rw [← known first, ← known second]
    exact reordered.perm.filter isChosen
  · intro tag member other otherMember different
    obtain ⟨inFirst, chosen⟩ := List.mem_filter.mp member
    obtain ⟨otherInFirst, chosenOther⟩ := List.mem_filter.mp otherMember
    rw [SameOrder, pairs tag other first chosen chosenOther,
      pairs tag other second chosen chosenOther]
    exact order tag inFirst other otherInFirst different chosen chosenOther

theorem Tag.Reordered.named_eq (reordered : Tag.Reordered load first second) {kind : String}
    (ordered : kind ∈ TagRole.ordered) : Tag.named first kind = Tag.named second kind := by
  apply reordered.filter_eq
  · intro tag named
    have included : ∀ kind ∈ TagRole.ordered, kind ∈ TagRole.recognized := by decide
    rw [beq_iff_eq.mp named]
    exact included kind ordered
  · intro tag member other otherMember different named otherNamed
    have same := beq_iff_eq.mp named
    exact reordered.kinds tag member other otherMember different
      (same.trans (beq_iff_eq.mp otherNamed).symm) (same ▸ ordered)

/-! ### Parameters -/

def Tag.contributes (load : Settings.Loaded) (name : String) (tag : Tag) : Bool :=
  (tag.contributed load).any (·.name == name)

theorem Tag.SharesName.of_contributes {name : String} {tag other : Tag}
    (contributes : tag.contributes load name = true)
    (otherContributes : other.contributes load name = true) : tag.SharesName load other := by
  obtain ⟨parameter, member, named⟩ := List.any_eq_true.mp contributes
  obtain ⟨later, laterMember, laterNamed⟩ := List.any_eq_true.mp otherContributes
  exact ⟨parameter, member, later, laterMember,
    (beq_iff_eq.mp named).trans (beq_iff_eq.mp laterNamed).symm⟩

theorem Tag.recognized_of_contributes {name : String} {tag : Tag}
    (contributes : tag.contributes load name = true) : tag.tagName ∈ TagRole.recognized := by
  refine Decidable.byContradiction fun unknown => ?_
  have nothing : tag.contribution load = .ok [] := by
    unfold Tag.contribution
    split
    all_goals simp_all [TagRole.recognized]
  rw [Tag.contributes, Tag.contributed, nothing] at contributes
  cases contributes

theorem filter_flatMap_contributed (load : Settings.Loaded) (name : String) (tags : List Tag) :
    (tags.flatMap (·.contributed load)).filter (·.name == name) =
      (tags.filter (·.contributes load name)).flatMap fun tag =>
        (tag.contributed load).filter (·.name == name) := by
  induction tags with
  | nil => rfl
  | cons tag tags ih =>
    rw [List.flatMap_cons, List.filter_append, ih, List.filter_cons]
    split
    · rw [List.flatMap_cons]
    · rename_i silent
      have nothing : (tag.contributed load).filter (·.name == name) = [] := by
        rw [List.filter_eq_nil_iff]
        rw [Tag.contributes, List.any_eq_true] at silent
        exact fun parameter member named => silent ⟨parameter, member, named⟩
      rw [nothing, List.nil_append]

namespace Operation

variable {operation other : Operation} {api : ApiContext}

theorem Contributed.eq_flatMap {tags : List Tag} {parameters : List Parameter}
    (contributed : Contributed load tags parameters) :
    parameters = tags.flatMap (·.contributed load) := by
  obtain ⟨contributions, read, rfl⟩ := contributed
  have lists : tags.map (·.contributed load) = contributions := by
    have taken := congrArg (List.map fun contribution => contribution.toOption.getD []) read
    rw [List.map_map, List.map_map] at taken
    exact taken.trans (List.map_id _)
  rw [List.flatMap_def, lists]

theorem Contributed.filter_eq {parameters others : List Parameter}
    (reordered : Tag.Reordered load first second) (contributed : Contributed load first parameters)
    (contributedOther : Contributed load second others) (name : String) :
    parameters.filter (·.name == name) = others.filter (·.name == name) := by
  have selected : first.filter (·.contributes load name) =
      second.filter (·.contributes load name) :=
    reordered.filter_eq _ (fun tag => Tag.recognized_of_contributes)
      fun tag member other otherMember different contributes otherContributes =>
        reordered.names tag member other otherMember different
          (.of_contributes contributes otherContributes)
  rw [contributed.eq_flatMap, contributedOther.eq_flatMap, filter_flatMap_contributed,
    filter_flatMap_contributed, selected]

/-! ### Operations -/

/-- An operation is known from its API, its parameters and the tags of each ordered kind. -/
theorem Described.unique (said : Described settings first operation)
    (saidOther : Described settings second other)
    (same : ∀ kind ∈ TagRole.ordered, Tag.named first kind = Tag.named second kind)
    (sameApi : operation.api = other.api)
    (sameParameters : operation.parameters = other.parameters) : operation = other := by
  have path : operation.path = other.path := by
    rw [said.path, saidOther.path, same "path" (by decide)]
  have httpMethod : operation.httpMethod = other.httpMethod := by
    have wrapped : operation.httpMethod.map some = other.httpMethod.map some := by
      rw [said.httpMethod, saidOther.httpMethod, same "path" (by decide)]
    exact Option.map_inj_right (fun _ _ => Option.some.inj) |>.mp wrapped
  have summary : operation.summary = other.summary := by
    rw [said.summary, saidOther.summary, same "summary" (by decide)]
  have notes : operation.notes = other.notes := by
    rw [said.notes, saidOther.notes, same "notes" (by decide)]
  have errorMessages : operation.errorMessages = other.errorMessages := by
    have wrapped : operation.errorMessages.map (@Except.ok Failure ErrorMessage) =
        other.errorMessages.map .ok := by
      rw [← said.errors, ← saidOther.errors, same "error_message" (by decide)]
    exact (List.map_inj_right fun _ _ => Except.ok.inj).mp wrapped
  obtain ⟨types, read, responseType, modelNames⟩ := said.responses
  obtain ⟨otherTypes, otherRead, otherResponseType, otherModelNames⟩ := saidOther.responses
  have sameTypes : types = otherTypes := by
    rw [same "response_type" (by decide), otherRead] at read
    exact ((List.map_inj_right fun _ _ => Except.ok.inj).mp read).symm
  subst sameTypes
  cases operation
  cases other
  simp_all

/-- Two declarations whose tags differ only in an order that does not count describe the same
operation. -/
theorem ofDeclaration_reordered (settings : Settings) (api : ApiContext)
    (first second : Declaration) (operation other : Operation)
    (reordered : Tag.Reordered (.ok settings) first.tags second.tags)
    (built : (ofDeclaration (.ok settings) first api).result = .ok operation)
    (builtOther : (ofDeclaration (.ok settings) second api).result = .ok other) :
    operation = other := by
  obtain ⟨gathered, format, run, formatRead, rfl⟩ := ofDeclaration_gathers built
  obtain ⟨gatheredOther, formatOther, runOther, formatReadOther, rfl⟩ :=
    ofDeclaration_gathers builtOther
  obtain rfl := Except.ok.inj (formatRead.symm.trans formatReadOther)
  have sorted := Parameter.mergeSort_stableSort gathered.parameters
  have sortedOther := Parameter.mergeSort_stableSort gatheredOther.parameters
  have parameters : gathered.parameters.mergeSort Parameter.namesInOrder =
      gatheredOther.parameters.mergeSort Parameter.namesInOrder := by
    apply eq_of_ordered sorted.ordered sortedOther.ordered
    intro name
    rw [sorted.stable, sortedOther.stable]
    exact run.contributed.filter_eq reordered runOther.contributed name
  refine Described.unique run.described.withParameters runOther.described.withParameters
    (fun kind ordered => reordered.named_eq ordered) ?_ ?_
  · exact run.api.trans runOther.api.symm
  · exact congrArg (· ++ [format]) parameters

/-- A method with two parameters of one name, one of them from its path. -/
def pathFirst : Declaration where
  type := "method"
  tags :=
    [⟨"path", "/{id}", none, ["GET"]⟩, ⟨"parameter", "Again.", some "id", ["string"]⟩,
     ⟨"parameter", "", some "a", ["T"]⟩, ⟨"error_message", "Gone", some "404", []⟩,
     ⟨"error_message", "Missing", some "404", []⟩]
  path := none

/-- The tags of `pathFirst` in another order, with one that is ignored. -/
def pathLater : Declaration where
  type := "method"
  tags :=
    [⟨"parameter", "", some "a", ["T"]⟩, ⟨"error_message", "Gone", some "404", []⟩,
     ⟨"path", "/{id}", none, ["GET"]⟩, ⟨"error_message", "Missing", some "404", []⟩,
     ⟨"deprecated", "", none, []⟩, ⟨"parameter", "Again.", some "id", ["string"]⟩]
  path := some "Widgets#show"

theorem ofDeclaration_reordered_pathLater :
    Tag.Reordered (.ok Settings.standard) pathFirst.tags pathLater.tags ∧
    ∃ operation,
      (ofDeclaration (.ok Settings.standard) pathFirst ⟨none, none⟩).result = .ok operation ∧
      (ofDeclaration (.ok Settings.standard) pathLater ⟨none, none⟩).result = .ok operation := by
  have reordered : Tag.Reordered (.ok Settings.standard) pathFirst.tags pathLater.tags := by
    refine ⟨?_, ?_, ?_⟩
    · decide +kernel
    · unfold Tag.SameOrder
      decide +kernel
    · unfold Tag.SameOrder Tag.SharesName
      decide +kernel
  obtain ⟨operation, built⟩ : ∃ operation,
      (ofDeclaration (.ok Settings.standard) pathFirst ⟨none, none⟩).result = .ok operation :=
    ⟨_, rfl⟩
  obtain ⟨other, builtOther⟩ : ∃ operation,
      (ofDeclaration (.ok Settings.standard) pathLater ⟨none, none⟩).result = .ok operation :=
    ⟨_, rfl⟩
  have same := ofDeclaration_reordered _ _ _ _ _ _ reordered built builtOther
  exact ⟨reordered, operation, built, same ▸ builtOther⟩

end Operation

end DocTags
