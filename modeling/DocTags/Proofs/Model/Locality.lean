import DocTags.Proofs.Model.Reachability
import Mathlib.Logic.Relation

/-!
# Where the walk looks

A walk looks up the names that it lists and no others (`Expands.congr`). So what a model reaches
among some models it reaches, in the same order, among any others in which the listed names stand
for the same models. `Immaterial` gathers changes to a list of models that are of this sort.
-/

namespace DocTags.Model

/-- Changes that make no difference to what a model reaches: one of the other models is dropped, or
they are put in another order in which models of one id follow each other as before. -/
inductive Immaterial (model : Model) : List Model → List Model → Prop where
  | nameless {before after : List Model} {dropped : Model} (unnamed : dropped.id = none) :
      Immaterial model (before ++ dropped :: after) (before ++ after)
  | repeated {before after : List Model} {dropped earlier : Model} (member : earlier ∈ before)
      (taken : earlier.id = dropped.id) :
      Immaterial model (before ++ dropped :: after) (before ++ after)
  | unreached {before after : List Model} {dropped : Model} {id : String}
      (named : dropped.id = some id)
      (unlisted : id ∉ model.reachableNames (before ++ dropped :: after)) :
      Immaterial model (before ++ dropped :: after) (before ++ after)
  | permuted {models others : List Model} (perm : others.Perm models)
      (order : ∀ id, others.filter (·.id == some id) = models.filter (·.id == some id)) :
      Immaterial model models others

variable {models others before after : List Model} {model dropped : Model} {walk last : Walk}
  {name : String} {names : List String}

/-! ### Names that are looked up -/

/-- A walk goes the same way wherever the names that it looks behind, those met on the way included,
stand for the same models. -/
theorem Expands.congr (walked : Expands models walk names last)
    (same : ∀ name, name ∈ names ∨ (name ∈ last.seen ∧ name ∉ walk.seen) →
      find? others name = find? models name) :
    Expands others walk names last := by
  induction walked with
  | nil walk => exact .nil walk
  | @absent walk last first names missing _ ih =>
    have looked := same first (.inl List.mem_cons_self)
    refine .absent (looked.trans missing) (ih ?_)
    intro name met
    exact same name (met.imp_left (List.mem_cons_of_mem _))
  | @present walk mid last first names model found behind rest ihBehind ihRest =>
    have looked := same first (.inl List.mem_cons_self)
    have adds := walk.adds_fresh model
    refine .present (looked.trans found) (ihBehind ?_) (ihRest ?_)
    · intro name met
      refine same name (.inr ?_)
      rcases met with fresh | ⟨seen, unseen⟩
      · have listed : name ∈ (walk.list (walk.fresh model)).seen := List.mem_append_right _ fresh
        exact ⟨rest.seen_mono (behind.seen_mono listed), adds.unseen name fresh⟩
      · exact ⟨rest.seen_mono seen, fun old => unseen (adds.seen_mono old)⟩
    · intro name met
      rcases met with later | ⟨seen, unseen⟩
      · exact same name (.inl (List.mem_cons_of_mem _ later))
      · exact same name (.inr ⟨seen, fun old => unseen (behind.seen_mono (adds.seen_mono old))⟩)

theorem reachableNames_congr
    (same : ∀ name ∈ model.reachableNames models, find? others name = find? models name) :
    model.reachableNames others = model.reachableNames models := by
  obtain ⟨last, walked, adds⟩ := reachableNames_expands model models
  obtain ⟨otherLast, otherWalked, otherAdds⟩ := reachableNames_expands model others
  have listed : ∀ name ∈ last.seen, name ∉ model.start.seen →
      name ∈ model.reachableNames models := by
    intro name seen unseen
    rw [adds.seen] at seen
    exact (List.mem_append.mp seen).resolve_left unseen
  have moved : Expands others (model.start.list (model.start.fresh model))
      (model.start.fresh model) last := by
    refine walked.congr ?_
    intro name met
    refine same name ?_
    rcases met with fresh | ⟨seen, unseen⟩
    · have seen : name ∈ last.seen := walked.seen_mono (List.mem_append_right _ fresh)
      exact listed name seen (Walk.mem_fresh.mp fresh).2
    · exact listed name seen fun old => unseen (List.mem_append_left _ old)
  obtain rfl := moved.unique otherWalked
  have same : model.start.listed ++ model.reachableNames others =
      model.start.listed ++ model.reachableNames models := otherAdds.listed.symm.trans adds.listed
  exact List.append_cancel_left same

/-! ### Changes that make no difference -/

theorem find?_drop_of_ne (different : dropped.id ≠ some name) :
    find? (before ++ after) name = find? (before ++ dropped :: after) name := by
  have passed : (dropped.id == some name) = false := beq_false_of_ne different
  simp only [find?, List.find?_append, List.find?_cons, passed]

theorem find?_drop_of_taken {earlier : Model} (member : earlier ∈ before)
    (taken : earlier.id = some name) :
    find? (before ++ after) name = find? (before ++ dropped :: after) name := by
  obtain ⟨first, found⟩ : ∃ first, find? before name = some first := by
    rw [← Option.isSome_iff_exists, find?, List.find?_isSome]
    exact ⟨earlier, member, beq_iff_eq.mpr taken⟩
  simp only [find?] at found
  simp only [find?, List.find?_append, found, Option.some_or]

theorem find?_of_filter_eq
    (order : others.filter (·.id == some name) = models.filter (·.id == some name)) :
    find? others name = find? models name := by
  rw [find?, find?, ← List.head?_filter, ← List.head?_filter, order]

theorem Immaterial.find?_eq (change : model.Immaterial models others)
    (listed : name ∈ model.reachableNames models) : find? others name = find? models name := by
  cases change with
  | nameless unnamed =>
    apply find?_drop_of_ne
    simp [unnamed]
  | @repeated before after dropped earlier member taken =>
    by_cases own : dropped.id = some name
    · exact find?_drop_of_taken member (taken.trans own)
    · exact find?_drop_of_ne own
  | @unreached before after dropped id named unlisted =>
    apply find?_drop_of_ne
    intro own
    obtain rfl : id = name := Option.some.inj (named.symm.trans own)
    exact unlisted listed
  | permuted _ order => exact find?_of_filter_eq (order name)

theorem reachableNames_of_immaterial
    (changes : Relation.ReflTransGen model.Immaterial models others) :
    model.reachableNames others = model.reachableNames models := by
  induction changes with
  | refl => rfl
  | tail _ change ih => exact (reachableNames_congr fun _ => change.find?_eq).trans ih

/-- What a model reaches depends only on the models that stand under the names it reaches. So models
may be dropped that have no id, an id that is taken by an earlier one, or an id that is not reached,
and models with different ids may change places, as often as one likes. -/
theorem reachableNames_local (model : Model) (models others : List Model) :
    ((∀ name ∈ model.reachableNames models, find? others name = find? models name) →
      model.reachableNames others = model.reachableNames models) ∧
    (Relation.ReflTransGen model.Immaterial models others →
      model.reachableNames others = model.reachableNames models) :=
  ⟨reachableNames_congr, reachableNames_of_immaterial⟩

def scattered : List Model :=
  [⟨none, []⟩, referring "C" ["D"], referring "B" ["C"], referring "B" ["E"], referring "F" ["B"]]

def tidied : List Model := [referring "B" ["C"], referring "C" ["D"]]

theorem reachableNames_local_scattered :
    (∀ name ∈ (referring "A" ["B"]).reachableNames scattered,
      find? tidied name = find? scattered name) ∧
    Relation.ReflTransGen (referring "A" ["B"]).Immaterial scattered tidied ∧
    (referring "A" ["B"]).reachableNames scattered = ["B", "C", "D"] ∧
    (referring "A" ["B"]).reachableNames tidied = ["B", "C", "D"] ∧
    (referring "A" ["B"]).reachableNames tidied =
      (referring "A" ["B"]).reachableNames scattered := by
  have listed : (referring "A" ["B"]).reachableNames scattered = ["B", "C", "D"] := by decide
  have same : ∀ name ∈ (referring "A" ["B"]).reachableNames scattered,
      find? tidied name = find? scattered name := by
    rw [listed]
    decide
  have order : ∀ id, tidied.filter (·.id == some id) =
      tidied.reverse.filter (·.id == some id) := by
    intro id
    by_cases first : "B" = id
    · subst first
      decide
    · have other : ((referring "B" ["C"]).id == some id) = false := by simp [referring, first]
      simp [tidied, List.filter_cons, other]
  have changes : Relation.ReflTransGen (referring "A" ["B"]).Immaterial scattered tidied := by
    refine .head (@Immaterial.nameless _ [] scattered.tail ⟨none, []⟩ rfl) ?_
    refine .head (@Immaterial.repeated _ tidied.reverse [referring "F" ["B"]]
      (referring "B" ["E"]) (referring "B" ["C"]) (.tail _ (.head _)) rfl) ?_
    refine .head (@Immaterial.unreached _ tidied.reverse [] (referring "F" ["B"]) "F" rfl
      (by decide)) ?_
    exact .single (.permuted (.swap _ _ _) order)
  have kept := reachableNames_local (referring "A" ["B"]) scattered tidied
  exact ⟨same, changes, listed, (kept.1 same).trans listed, kept.2 changes⟩

end DocTags.Model
