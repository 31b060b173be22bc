import DocTags.Proofs.Model.Expansion
import Mathlib.Data.List.Chain

/-!
# The names that a model reaches

A name is listed exactly if a chain of references leads to it from the model without passing
through the model's own id. `reachableNames` is described by four facts (what it adds, where it
starts, that it is closed under references, that it holds nothing else), and every other statement
about it follows from these.
-/

namespace DocTags.Model

/-- A chain of references: the model refers to the first name, the first model with each name refers
to the next one, and `name` comes last. -/
structure Trail (models : List Model) (model : Model) (chain : List String) (name : String) :
    Prop where
  starts : ∃ first, chain.head? = some first ∧ first ∈ model.referencedNames
  linked : chain.IsChain (Refers models)
  ends : chain.getLast? = some name

variable {models : List Model} {model : Model} {name other : String} {chain : List String}

/-! ### What is listed -/

def start (model : Model) : Walk := ⟨[], model.id.toList⟩

theorem not_mem_start_seen : name ∉ model.start.seen ↔ some name ≠ model.id := by
  cases id : model.id with
  | none => simp [start, id]
  | some own => simp [start, id]

/-- The walk behind `reachableNames` ends with the own id and the listed names as those seen. -/
theorem reachableNames_expands (model : Model) (models : List Model) :
    ∃ last,
      Expands models (model.start.list (model.start.fresh model)) (model.start.fresh model) last ∧
      model.start.Adds last (model.reachableNames models) := by
  have enough : (model.start.unseenIds models).length < (ids models).length + 1 := by
    have bound := List.length_filter_le (!model.start.seen.contains ·) (ids models)
    unfold Walk.unseenIds
    omega
  have walked :
      Expands models (model.start.list (model.start.fresh model)) (model.start.fresh model) _ :=
    visit_expands enough
  obtain ⟨new, adds⟩ := walked.adds
  have total := (model.start.adds_fresh model).trans adds
  have listed : model.reachableNames models = model.start.fresh model ++ new := total.listed
  exact ⟨_, walked, by rw [listed]; exact total⟩

theorem nodup_reachableNames (model : Model) (models : List Model) :
    (model.reachableNames models).Nodup := by
  obtain ⟨_, _, adds⟩ := reachableNames_expands model models
  exact adds.nodup

theorem ne_id_of_mem_reachableNames (listed : name ∈ model.reachableNames models) :
    some name ≠ model.id := by
  obtain ⟨_, _, adds⟩ := reachableNames_expands model models
  exact not_mem_start_seen.mp (adds.unseen name listed)

theorem mem_reachableNames_of_referenced (referenced : name ∈ model.referencedNames)
    (foreign : some name ≠ model.id) : name ∈ model.reachableNames models := by
  obtain ⟨last, walked, adds⟩ := reachableNames_expands model models
  have unseen : name ∉ model.start.seen := not_mem_start_seen.mpr foreign
  have fresh : name ∈ model.start.fresh model := Walk.mem_fresh.mpr ⟨referenced, unseen⟩
  have seen : name ∈ last.seen := walked.seen_mono (List.mem_append_right _ fresh)
  rw [adds.seen] at seen
  exact (List.mem_append.mp seen).resolve_left unseen

theorem mem_reachableNames_of_refers (listed : name ∈ model.reachableNames models)
    (refers : Refers models name other) (foreign : some other ≠ model.id) :
    other ∈ model.reachableNames models := by
  obtain ⟨last, walked, adds⟩ := reachableNames_expands model models
  have met : name ∈ model.start.fresh model ∨
      (name ∈ last.seen ∧ name ∉ (model.start.list (model.start.fresh model)).seen) := by
    by_cases direct : name ∈ model.start.fresh model
    · exact .inl direct
    · refine .inr ⟨by rw [adds.seen]; exact List.mem_append_right _ listed, ?_⟩
      exact fun before => (List.mem_append.mp before).elim (adds.unseen name listed) direct
  have seen := walked.complete met refers
  rw [adds.seen] at seen
  exact (List.mem_append.mp seen).resolve_left (not_mem_start_seen.mpr foreign)

/-- A property of what the model refers to that references carry on holds of every listed name. -/
theorem reachableNames_induction (holds : String → Prop)
    (direct : ∀ name ∈ model.referencedNames, some name ≠ model.id → holds name)
    (carries : ∀ name other, holds name → Refers models name other → some other ≠ model.id →
      holds other)
    (listed : name ∈ model.reachableNames models) : holds name := by
  obtain ⟨last, walked, adds⟩ := reachableNames_expands model models
  have fresh : ∀ name ∈ model.start.fresh model, holds name := by
    intro name member
    obtain ⟨referenced, unseen⟩ := Walk.mem_fresh.mp member
    exact direct name referenced (not_mem_start_seen.mp unseen)
  by_cases first : name ∈ model.start.fresh model
  · exact fresh name first
  · refine walked.sound fresh ?_ ?_ ?_
    · intro name other held refers unseen
      refine carries name other held refers (not_mem_start_seen.mp ?_)
      exact fun old => unseen (List.mem_append_left _ old)
    · rw [adds.seen]
      exact List.mem_append_right _ listed
    · exact fun before => (List.mem_append.mp before).elim (adds.unseen name listed) first

/-- With fewer references fewer names are reached. -/
theorem reachableNames_mono {fewer : Model} {others : List Model} (sameId : fewer.id = model.id)
    (direct : ∀ name ∈ fewer.referencedNames, name ∈ model.referencedNames)
    (behind : ∀ name other, Refers others name other → Refers models name other) :
    fewer.reachableNames others ⊆ model.reachableNames models := by
  intro name listed
  refine reachableNames_induction (· ∈ model.reachableNames models) ?_ ?_ listed
  · intro name referenced foreign
    rw [sameId] at foreign
    exact mem_reachableNames_of_referenced (direct name referenced) foreign
  · intro name other listed refers foreign
    rw [sameId] at foreign
    exact mem_reachableNames_of_refers listed (behind name other refers) foreign

/-! ### Chains of references -/

theorem Trail.single (referenced : name ∈ model.referencedNames) :
    Trail models model [name] name where
  starts := ⟨name, rfl, referenced⟩
  linked := .singleton name
  ends := rfl

theorem Trail.snoc (trail : Trail models model chain name) (refers : Refers models name other) :
    Trail models model (chain ++ [other]) other where
  starts := by
    obtain ⟨first, head, referenced⟩ := trail.starts
    refine ⟨first, ?_, referenced⟩
    rw [List.head?_append, head, Option.some_or]
  linked := by
    refine trail.linked.append (.singleton other) ?_
    intro last ends next head
    rw [trail.ends, Option.mem_some_iff] at ends
    rw [List.head?_singleton, Option.mem_some_iff] at head
    rw [← ends, ← head]
    exact refers
  ends := by simp

/-- A property of what the model refers to that each link of a chain carries on holds at its end. -/
theorem Trail.induction {holds : String → Prop} (trail : Trail models model chain name)
    (direct : ∀ first ∈ chain, first ∈ model.referencedNames → holds first)
    (carries : ∀ link, ∀ next ∈ chain, holds link → Refers models link next → holds next) :
    holds name := by
  obtain ⟨first, head, referenced⟩ := trail.starts
  have inChain : first ∈ chain := List.mem_of_mem_head? head
  have linked := List.IsChain.iff_mem.mp trail.linked
  refine List.IsChain.induction holds chain linked ?_ ?_ name (List.mem_of_getLast? trail.ends)
  · rintro link next ⟨_, member, refers⟩ held
    exact carries link next member held refers
  · intro nonempty
    rw [(List.head_eq_iff_head?_eq_some nonempty).mpr head]
    exact direct first inChain referenced

theorem exists_trail_of_mem_reachableNames (listed : name ∈ model.reachableNames models) :
    ∃ chain, Trail models model chain name ∧ ∀ link ∈ chain, some link ≠ model.id := by
  refine reachableNames_induction
    (fun name => ∃ chain, Trail models model chain name ∧ ∀ link ∈ chain, some link ≠ model.id)
    ?_ ?_ listed
  · intro name referenced foreign
    refine ⟨[name], .single referenced, ?_⟩
    intro link member
    rw [List.mem_singleton.mp member]
    exact foreign
  · rintro name other ⟨chain, trail, avoids⟩ refers foreign
    refine ⟨chain ++ [other], trail.snoc refers, ?_⟩
    intro link member
    rcases List.mem_append.mp member with earlier | last
    · exact avoids link earlier
    · rw [List.mem_singleton.mp last]
      exact foreign

theorem Trail.mem_reachableNames (trail : Trail models model chain name)
    (avoids : ∀ link ∈ chain, some link ≠ model.id) : name ∈ model.reachableNames models := by
  refine trail.induction ?_ ?_
  · intro first member referenced
    exact mem_reachableNames_of_referenced referenced (avoids first member)
  · intro link next member listed refers
    exact mem_reachableNames_of_refers listed refers (avoids next member)

/-- Where the model itself stands under its id, a chain through that id goes no further than one
that starts anew, so it need not be avoided. -/
theorem Trail.eq_id_or_mem_reachableNames
    (own : ∀ id, model.id = some id → find? models id = some model)
    (trail : Trail models model chain name) :
    some name = model.id ∨ name ∈ model.reachableNames models := by
  have referenced : ∀ name ∈ model.referencedNames,
      some name = model.id ∨ name ∈ model.reachableNames models := by
    intro name referenced
    by_cases same : some name = model.id
    · exact .inl same
    · exact .inr (mem_reachableNames_of_referenced referenced same)
  refine trail.induction (fun first _ => referenced first) ?_
  rintro link next _ (same | listed) refers
  · obtain ⟨referrer, found, member⟩ := refers
    rw [own link same.symm] at found
    obtain rfl := Option.some.inj found
    exact referenced next member
  · by_cases back : some next = model.id
    · exact .inl back
    · exact .inr (mem_reachableNames_of_refers listed refers back)

/-- Names are listed once; a name is listed exactly if a chain of references that avoids the model's
own id leads to it; and if the model stands under its own id, any chain will do. -/
theorem reachableNames_exact (model : Model) (models : List Model) :
    (model.reachableNames models).Nodup ∧
    (∀ name, name ∈ model.reachableNames models ↔
      some name ≠ model.id ∧
        ∃ chain, Trail models model chain name ∧ ∀ link ∈ chain, some link ≠ model.id) ∧
    ((∀ id, model.id = some id → find? models id = some model) →
      ∀ name, name ∈ model.reachableNames models ↔
        some name ≠ model.id ∧ ∃ chain, Trail models model chain name) := by
  refine ⟨nodup_reachableNames model models, ?_, ?_⟩
  · intro name
    constructor
    · intro listed
      exact ⟨ne_id_of_mem_reachableNames listed, exists_trail_of_mem_reachableNames listed⟩
    · rintro ⟨_, chain, trail, avoids⟩
      exact trail.mem_reachableNames avoids
  · intro own name
    constructor
    · intro listed
      obtain ⟨chain, trail, _⟩ := exists_trail_of_mem_reachableNames listed
      exact ⟨ne_id_of_mem_reachableNames listed, chain, trail⟩
    · rintro ⟨foreign, chain, trail⟩
      exact (trail.eq_id_or_mem_reachableNames own).resolve_left foreign

def referring (id : String) (names : List String) : Model :=
  ⟨some id, names.map fun name => ⟨name, ⟨name, false, .reference⟩, none, false⟩⟩

/-- Two models that refer to each other, one of them also to itself and one to a model that is not
there. -/
theorem reachableNames_exact_cycle :
    (∀ id, (referring "A" ["B", "A"]).id = some id →
      find? [referring "A" ["B", "A"], referring "B" ["A", "C"]] id =
        some (referring "A" ["B", "A"])) ∧
    ∀ name, name ∈ ["B", "C"] ↔
      some name ≠ some "A" ∧ ∃ chain, Trail [referring "A" ["B", "A"], referring "B" ["A", "C"]]
        (referring "A" ["B", "A"]) chain name := by
  have own : ∀ id, (referring "A" ["B", "A"]).id = some id →
      find? [referring "A" ["B", "A"], referring "B" ["A", "C"]] id =
        some (referring "A" ["B", "A"]) := by
    intro id same
    obtain rfl : "A" = id := Option.some.inj same
    decide
  have listed : (referring "A" ["B", "A"]).reachableNames
      [referring "A" ["B", "A"], referring "B" ["A", "C"]] = ["B", "C"] := by decide
  refine ⟨own, ?_⟩
  rw [← listed]
  exact (reachableNames_exact _ _).2.2 own

end DocTags.Model
