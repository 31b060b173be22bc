import DocTags.Model.Reach

/-!
# The walk over references as a relation

`Expands` is the walk without a bound on its depth: it goes through a list of names that are already
listed and looks behind each. `visit_expands` shows that `Walk.visit` is such a walk whenever its
bound exceeds the number of ids not yet seen. What a walk adds, that it misses nothing and that it
invents nothing are then rule inductions over `Expands`.
-/

namespace DocTags.Model

/-- The first model with the id `name` refers to `other`. -/
def Refers (models : List Model) (name other : String) : Prop :=
  ∃ model, find? models name = some model ∧ other ∈ model.referencedNames

/-- A walk that looks behind some names in order. What a model brings up is listed at once, and
looked behind before the next name. -/
inductive Expands (models : List Model) : Walk → List String → Walk → Prop where
  | nil (walk : Walk) : Expands models walk [] walk
  | absent {walk last : Walk} {name : String} {names : List String}
      (missing : find? models name = none) (rest : Expands models walk names last) :
      Expands models walk (name :: names) last
  | present {walk mid last : Walk} {name : String} {names : List String} {model : Model}
      (found : find? models name = some model)
      (behind : Expands models (walk.list (walk.fresh model)) (walk.fresh model) mid)
      (rest : Expands models mid names last) : Expands models walk (name :: names) last

variable {models : List Model} {walk mid last : Walk} {model : Model} {name other : String}
  {names new more : List String}

/-! ### What a walk adds -/

/-- A walk went on from `walk` to `last` and met the names `new`. -/
structure Walk.Adds (walk last : Walk) (new : List String) : Prop where
  listed : last.listed = walk.listed ++ new
  seen : last.seen = walk.seen ++ new
  nodup : new.Nodup
  unseen : ∀ name ∈ new, name ∉ walk.seen

theorem Walk.Adds.refl (walk : Walk) : walk.Adds walk [] := by
  refine ⟨?_, ?_, List.nodup_nil, ?_⟩ <;> simp

theorem Walk.Adds.trans (first : walk.Adds mid new) (second : mid.Adds last more) :
    walk.Adds last (new ++ more) := by
  have apart : ∀ name ∈ more, name ∉ walk.seen ∧ name ∉ new := by
    intro name member
    have unseen := second.unseen name member
    rw [first.seen, List.mem_append, not_or] at unseen
    exact unseen
  refine ⟨?_, ?_, ?_, ?_⟩
  · rw [second.listed, first.listed, List.append_assoc]
  · rw [second.seen, first.seen, List.append_assoc]
  · rw [List.nodup_append]
    refine ⟨first.nodup, second.nodup, ?_⟩
    intro name old other member same
    subst same
    exact (apart name member).2 old
  · intro name member
    rcases List.mem_append.mp member with old | later
    · exact first.unseen name old
    · exact (apart name later).1

theorem Walk.Adds.seen_mono (adds : walk.Adds last new) (member : name ∈ walk.seen) :
    name ∈ last.seen := by
  rw [adds.seen]
  exact List.mem_append_left new member

theorem nodup_eraseDups (names : List String) : names.eraseDups.Nodup := by
  induction names using Fields.eraseDups_induction with
  | nil => simp
  | cons name rest ih =>
    rw [List.eraseDups_cons, List.nodup_cons]
    refine ⟨?_, ih⟩
    simp [List.mem_eraseDups]

theorem nodup_referencedNames (model : Model) : model.referencedNames.Nodup :=
  nodup_eraseDups _

theorem Walk.mem_fresh :
    name ∈ walk.fresh model ↔ name ∈ model.referencedNames ∧ name ∉ walk.seen := by
  simp [Walk.fresh]

theorem Walk.adds_fresh (walk : Walk) (model : Model) :
    walk.Adds (walk.list (walk.fresh model)) (walk.fresh model) where
  listed := rfl
  seen := rfl
  nodup := (nodup_referencedNames model).filter _
  unseen := fun _ member => (Walk.mem_fresh.mp member).2

theorem Expands.adds (walked : Expands models walk names last) : ∃ new, walk.Adds last new := by
  induction walked with
  | nil walk => exact ⟨[], .refl walk⟩
  | absent _ _ ih => exact ih
  | @present walk mid last name names model _ _ _ behind rest =>
    obtain ⟨inner, innerAdds⟩ := behind
    obtain ⟨outer, outerAdds⟩ := rest
    exact ⟨_, ((walk.adds_fresh model).trans innerAdds).trans outerAdds⟩

theorem Expands.seen_mono (walked : Expands models walk names last) (member : name ∈ walk.seen) :
    name ∈ last.seen := by
  obtain ⟨new, adds⟩ := walked.adds
  exact adds.seen_mono member

/-- There is only one way to walk. -/
theorem Expands.unique {other : Walk} (walked : Expands models walk names last)
    (again : Expands models walk names other) : last = other := by
  induction walked generalizing other with
  | nil walk =>
    cases again
    rfl
  | absent missing _ ih =>
    cases again with
    | absent _ rest => exact ih rest
    | present found _ _ =>
      rw [missing] at found
      cases found
  | present found _ _ ihBehind ihRest =>
    cases again with
    | absent missing _ =>
      rw [missing] at found
      cases found
    | present foundAgain behind rest =>
      rw [found] at foundAgain
      obtain rfl := Option.some.inj foundAgain
      obtain rfl := ihBehind behind
      exact ihRest rest

/-! ### Nothing is missed and nothing is invented -/

/-- Whatever the names looked behind and the names met on the way refer to has been seen at the
end. Names that were seen before but still wait to be looked behind are left to the walk around this
one, so nothing is said about them. -/
theorem Expands.complete (walked : Expands models walk names last)
    (met : name ∈ names ∨ (name ∈ last.seen ∧ name ∉ walk.seen))
    (refers : Refers models name other) :
    other ∈ last.seen := by
  induction walked with
  | nil walk =>
    rcases met with member | ⟨seen, unseen⟩
    · exact absurd member List.not_mem_nil
    · exact absurd seen unseen
  | @absent walk last first names missing _ ih =>
    rcases met with member | added
    · rcases List.mem_cons.mp member with rfl | later
      · obtain ⟨model, found, _⟩ := refers
        rw [missing] at found
        cases found
      · exact ih (.inl later)
    · exact ih (.inr added)
  | @present walk mid last first names model found behind rest ihBehind ihRest =>
    rcases met with member | ⟨seen, unseen⟩
    · rcases List.mem_cons.mp member with rfl | later
      · obtain ⟨referrer, same, referenced⟩ := refers
        rw [found] at same
        obtain rfl := Option.some.inj same
        have listed : other ∈ (walk.list (walk.fresh model)).seen := by
          by_cases old : other ∈ walk.seen
          · exact (walk.adds_fresh model).seen_mono old
          · exact List.mem_append_right _ (Walk.mem_fresh.mpr ⟨referenced, old⟩)
        exact rest.seen_mono (behind.seen_mono listed)
      · exact ihRest (.inl later)
    · -- A name that is new at the end was met behind this name or after it.
      by_cases before : name ∈ mid.seen
      · have inside : name ∈ walk.fresh model ∨
            (name ∈ mid.seen ∧ name ∉ (walk.list (walk.fresh model)).seen) := by
          by_cases direct : name ∈ walk.fresh model
          · exact .inl direct
          · exact .inr ⟨before, fun listed => (List.mem_append.mp listed).elim unseen direct⟩
        exact rest.seen_mono (ihBehind inside)
      · exact ihRest (.inr ⟨seen, before⟩)

/-- A property of the names looked behind that references to unseen names carry on holds of every
name met on the way. -/
theorem Expands.sound {holds : String → Prop} (walked : Expands models walk names last)
    (start : ∀ name ∈ names, holds name)
    (carries : ∀ name other, holds name → Refers models name other → other ∉ walk.seen →
      holds other)
    (seen : name ∈ last.seen) (unseen : name ∉ walk.seen) : holds name := by
  induction walked with
  | nil walk => exact absurd seen unseen
  | absent _ _ ih =>
    exact ih (fun name member => start name (List.mem_cons_of_mem _ member)) carries seen unseen
  | @present walk mid last first names model found behind rest ihBehind ihRest =>
    have fresh : ∀ name ∈ walk.fresh model, holds name := by
      intro name member
      obtain ⟨referenced, unseen⟩ := Walk.mem_fresh.mp member
      exact carries first name (start first List.mem_cons_self) ⟨model, found, referenced⟩ unseen
    have wider : ∀ name, name ∈ walk.seen → name ∈ (walk.list (walk.fresh model)).seen :=
      fun _ old => (walk.adds_fresh model).seen_mono old
    by_cases before : name ∈ mid.seen
    · by_cases direct : name ∈ walk.fresh model
      · exact fresh name direct
      · refine ihBehind fresh ?_ before ?_
        · intro name other held refers unseen
          exact carries name other held refers (fun old => unseen (wider other old))
        · exact fun listed => (List.mem_append.mp listed).elim unseen direct
    · refine ihRest (fun name member => start name (List.mem_cons_of_mem _ member)) ?_ seen before
      intro name other held refers unseen
      exact carries name other held refers
        (fun old => unseen (behind.seen_mono (wider other old)))

/-! ### The bound on the depth -/

def Walk.unseenIds (models : List Model) (walk : Walk) : List String :=
  (ids models).filter (!walk.seen.contains ·)

theorem mem_ids_of_find? (found : find? models name = some model) : name ∈ ids models := by
  have hasId : model.id = some name := by simpa using List.find?_some found
  rw [ids, List.mem_eraseDups]
  exact List.mem_filterMap.mpr ⟨model, List.mem_of_find?_eq_some found, hasId⟩

theorem Walk.unseenIds_mono (wider : ∀ name ∈ walk.seen, name ∈ last.seen) :
    (last.unseenIds models).length ≤ (walk.unseenIds models).length := by
  unfold Walk.unseenIds
  rw [← List.countP_eq_length_filter, ← List.countP_eq_length_filter]
  apply List.countP_mono_left
  intro name _ unseen
  simp only [Bool.not_eq_true', List.contains_eq_mem, decide_eq_false_iff_not] at unseen ⊢
  exact fun seen => unseen (wider name seen)

theorem Walk.unseenIds_list (walk : Walk) (names : List String) :
    (walk.list names).unseenIds models =
      (walk.unseenIds models).filter (!names.contains ·) := by
  unfold Walk.unseenIds Walk.list
  rw [List.filter_filter]
  apply List.filter_congr
  intro name _
  simp [Bool.and_comm]

/-- Listing what a model brings up leaves fewer ids unseen, if one of these names has a model. -/
theorem Walk.unseenIds_list_lt {next : Model} (fresh : name ∈ walk.fresh model)
    (found : find? models name = some next) :
    ((walk.list (walk.fresh model)).unseenIds models).length <
      (walk.unseenIds models).length := by
  rw [walk.unseenIds_list, List.length_filter_lt_length_iff_exists]
  refine ⟨name, ?_, by simpa using fresh⟩
  have unseen := (Walk.mem_fresh.mp fresh).2
  exact List.mem_filter.mpr ⟨mem_ids_of_find? found, by simpa using unseen⟩

/-- Names are looked behind one after the other. Each time the walk has seen all that it had seen
at the start, and maybe more. -/
theorem foldl_expands {step : Walk → String → Walk}
    (absent : ∀ current name, find? models name = none → step current name = current)
    (present : ∀ current, (∀ name ∈ walk.seen, name ∈ current.seen) →
      ∀ name ∈ names, ∀ next, find? models name = some next →
        Expands models (current.list (current.fresh next)) (current.fresh next)
          (step current name)) :
    Expands models walk names (names.foldl step walk) := by
  induction names generalizing walk with
  | nil => exact .nil walk
  | cons name names ih =>
    rw [List.foldl_cons]
    cases found : find? models name with
    | none =>
      rw [absent walk name found]
      refine .absent found (ih ?_)
      intro current wider other later
      exact present current wider other (List.mem_cons_of_mem _ later)
    | some next =>
      have behind := present walk (fun _ seen => seen) name List.mem_cons_self next found
      refine .present found behind (ih ?_)
      intro current wider other later
      refine present current ?_ other (List.mem_cons_of_mem _ later)
      intro old seen
      exact wider old (behind.seen_mono ((walk.adds_fresh next).seen_mono seen))

/-- The depth to which `Walk.visit` may go is never used up while it exceeds the number of ids that
the walk has not seen: every nested visit is behind an id that was new one level up. -/
theorem visit_expands {depth : Nat} (enough : (walk.unseenIds models).length < depth) :
    Expands models (walk.list (walk.fresh model)) (walk.fresh model)
      (Walk.visit models depth walk model) := by
  induction depth generalizing walk model with
  | zero => omega
  | succ depth ih =>
    rw [Walk.visit]
    refine foldl_expands ?_ ?_
    · intro current name missing
      rw [missing]
    · intro current wider name fresh next found
      have fewer : (current.unseenIds models).length < depth := by
        have less := Walk.unseenIds_list_lt fresh found
        have kept : (current.unseenIds models).length ≤ _ := Walk.unseenIds_mono wider
        omega
      rw [found]
      exact ih fewer

end DocTags.Model
