import DocTags.Proofs.Model.Reachability
import Mathlib.Data.List.Perm.Subperm
import Mathlib.Logic.Relation

/-!
# The calls of the recursive walk

A model that lists its names calls the models behind them, these call others in turn, and references
may lead in circles. `CallStack` is such a recursion at one moment, and `CallStack.step?` takes it
one step further with no bound on its depth. `Sound.step` says what a step keeps: no name is called
or waits to be called twice. So there is at most one call for each id, and the recursion comes to an
end with the names that `reachableNames` lists.
-/

namespace DocTags.Model

/-- The recursion at one moment. Each open call, the innermost first, has a frame with the names
that it has still to look behind; `calls` are the names behind which a nested call was made. -/
structure CallStack where
  walk : Walk
  frames : List (List String)
  calls : List String

namespace CallStack

def step? (models : List Model) : CallStack → Option CallStack
  | ⟨_, [], _⟩ => none
  | ⟨walk, [] :: frames, calls⟩ => some ⟨walk, frames, calls⟩
  | ⟨walk, (name :: names) :: frames, calls⟩ =>
    match find? models name with
    | none => some ⟨walk, names :: frames, calls⟩
    | some model =>
      -- The caller keeps its frame, even if it has no further name to look behind.
      let fresh := walk.fresh model
      some ⟨walk.list fresh, fresh :: names :: frames, calls ++ [name]⟩

def Reaches (models : List Model) : CallStack → CallStack → Prop :=
  Relation.ReflTransGen fun stack next => stack.step? models = some next

structure Sound (models : List Model) (stack : CallStack) : Prop where
  once : (stack.calls ++ stack.frames.flatten).Nodup
  seen : ∀ name ∈ stack.calls ++ stack.frames.flatten, name ∈ stack.walk.seen
  found : ∀ name ∈ stack.calls, name ∈ ids models
  nested : stack.frames.length ≤ stack.calls.length + 1

variable {models : List Model} {walk last : Walk} {model : Model} {stack next : CallStack}
  {name : String} {names : List String}

/-! ### What a step keeps -/

theorem Sound.call {frames : List (List String)} {calls : List String}
    (sound : Sound models ⟨walk, (name :: names) :: frames, calls⟩)
    (found : find? models name = some model) :
    Sound models
      ⟨walk.list (walk.fresh model), walk.fresh model :: names :: frames, calls ++ [name]⟩ := by
  have adds := walk.adds_fresh model
  -- The called name stays in the list, and the fresh names join it.
  have joined : ((calls ++ [name]) ++ (walk.fresh model :: names :: frames).flatten).Perm
      (walk.fresh model ++ (calls ++ ((name :: names) :: frames).flatten)) := by
    simp only [List.flatten_cons, List.cons_append, List.append_assoc, List.nil_append]
    have moved : (name :: (walk.fresh model ++ (names ++ frames.flatten))).Perm
        (walk.fresh model ++ name :: (names ++ frames.flatten)) := List.perm_middle.symm
    exact (moved.append_left calls).trans (List.perm_append_comm_assoc _ _ _)
  refine ⟨?_, ?_, ?_, ?_⟩
  · rw [joined.nodup_iff, List.nodup_append]
    refine ⟨adds.nodup, sound.once, ?_⟩
    rintro new fresh _ old rfl
    exact adds.unseen new fresh (sound.seen new old)
  · intro other member
    rcases List.mem_append.mp (joined.mem_iff.mp member) with fresh | old
    · exact List.mem_append_right _ fresh
    · exact adds.seen_mono (sound.seen other old)
  · intro other member
    rcases List.mem_append.mp member with earlier | last
    · exact sound.found other earlier
    · obtain rfl := List.mem_singleton.mp last
      exact mem_ids_of_find? found
  · have nested := sound.nested
    simp only [List.length_cons, List.length_append, List.length_nil] at nested ⊢
    omega

theorem Sound.step (sound : stack.Sound models) (stepped : stack.step? models = some next) :
    next.Sound models := by
  obtain ⟨walk, frames, calls⟩ := stack
  match frames with
  | [] => cases stepped
  | [] :: frames =>
    obtain rfl := Option.some.inj stepped
    exact ⟨sound.once, sound.seen, sound.found, (Nat.le_succ _).trans sound.nested⟩
  | (name :: names) :: frames =>
    rw [step?] at stepped
    split at stepped
    · obtain rfl := Option.some.inj stepped
      have fewer : (calls ++ (names :: frames).flatten).Sublist
          (calls ++ ((name :: names) :: frames).flatten) :=
        (List.sublist_cons_self name _).append_left calls
      exact ⟨sound.once.sublist fewer, fun other member => sound.seen other (fewer.subset member),
        sound.found, sound.nested⟩
    · rename_i model found
      obtain rfl := Option.some.inj stepped
      exact sound.call found

theorem Reaches.sound (run : Reaches models stack next) (sound : stack.Sound models) :
    next.Sound models := by
  induction run with
  | refl => exact sound
  | tail _ stepped ih => exact ih.step stepped

theorem Sound.length_calls_le (sound : stack.Sound models) :
    stack.calls.length ≤ (ids models).length :=
  (List.subperm_of_subset (List.nodup_append.mp sound.once).1 sound.found).length_le

/-! ### The end of the recursion -/

/-- The innermost call looks behind all its names, whatever waits for it to come back. -/
theorem Reaches.of_expands (walked : Expands models walk names last)
    (frames : List (List String)) (calls : List String) :
    ∃ made, Reaches models ⟨walk, names :: frames, calls⟩ ⟨last, [] :: frames, made⟩ := by
  induction walked generalizing frames calls with
  | nil walk => exact ⟨calls, .refl⟩
  | absent missing _ ih =>
    obtain ⟨made, run⟩ := ih frames calls
    exact ⟨made, .head (by simp only [step?, missing]) run⟩
  | @present walk mid last name names model found _ _ ihBehind ihRest =>
    obtain ⟨inner, behind⟩ := ihBehind (names :: frames) (calls ++ [name])
    obtain ⟨made, rest⟩ := ihRest frames inner
    have back : step? models ⟨mid, [] :: names :: frames, inner⟩ =
        some ⟨mid, names :: frames, inner⟩ := rfl
    exact ⟨made, .head (by simp only [step?, found]) (behind.trans (.head back rest))⟩

end CallStack

/-- The recursion right after a model was called to list what it reaches. -/
def called (model : Model) : CallStack :=
  ⟨model.start.list (model.start.fresh model), [model.start.fresh model], []⟩

theorem sound_called (model : Model) (models : List Model) : model.called.Sound models := by
  have adds := model.start.adds_fresh model
  refine ⟨?_, ?_, ?_, ?_⟩
  · simpa [called] using adds.nodup
  · intro name member
    simp only [called, List.nil_append, List.flatten_cons, List.flatten_nil, List.append_nil]
      at member
    exact List.mem_append_right _ member
  · simp [called]
  · simp [called]

theorem listed_visit (model : Model) (models : List Model) {depth : Nat}
    (enough : (ids models).length < depth) :
    (Walk.visit models depth model.start model).listed = model.reachableNames models := by
  obtain ⟨last, walked, adds⟩ := reachableNames_expands model models
  have fewer : (model.start.unseenIds models).length < depth :=
    Nat.lt_of_le_of_lt (List.length_filter_le _ _) enough
  rw [(visit_expands fewer).unique walked]
  exact adds.listed

/-- However the references run, the recursion ends with the names that the model reaches. On the way
each id is called at most once, and there are never more open calls than ids and the first call. So
no bound beyond that on the depth of the walk makes a difference. -/
theorem reachableNames_calls (model : Model) (models : List Model) :
    (∃ last, CallStack.Reaches models model.called last ∧ last.frames = [] ∧
      last.walk.listed = model.reachableNames models) ∧
    (∀ stack, CallStack.Reaches models model.called stack →
      stack.calls.Nodup ∧ (∀ name ∈ stack.calls, name ∈ ids models) ∧
      stack.calls.length ≤ (ids models).length ∧
      stack.frames.length ≤ (ids models).length + 1) ∧
    ∀ depth, (ids models).length < depth →
      (Walk.visit models depth model.start model).listed = model.reachableNames models := by
  refine ⟨?_, ?_, fun _ => listed_visit model models⟩
  · obtain ⟨last, walked, adds⟩ := reachableNames_expands model models
    obtain ⟨made, run⟩ := CallStack.Reaches.of_expands walked [] []
    exact ⟨⟨last, [], made⟩, run.tail rfl, rfl, adds.listed⟩
  · intro stack run
    have sound := run.sound (sound_called model models)
    have calls := sound.length_calls_le
    have nested := sound.nested
    exact ⟨(List.nodup_append.mp sound.once).1, sound.found, calls, by omega⟩

/-- Two models that refer to each other, one of them also to itself, and a second model with an id
that is taken. -/
def circle : List Model :=
  [referring "B" ["C"], referring "C" ["B", "C"], referring "B" ["D"]]

/-- From outside the circle both bounds are reached. -/
theorem reachableNames_calls_circle :
    ∃ stack, CallStack.Reaches circle (referring "A" ["B"]).called stack ∧
      stack.calls = ["B", "C"] ∧ stack.frames = [[], [], []] ∧
      stack.calls.Nodup ∧ (∀ name ∈ stack.calls, name ∈ ids circle) ∧
      stack.calls.length ≤ (ids circle).length ∧
      stack.frames.length ≤ (ids circle).length + 1 ∧
      (ids circle).length < 7 ∧
      (Walk.visit circle 7 (referring "A" ["B"]).start (referring "A" ["B"])).listed =
        (referring "A" ["B"]).reachableNames circle := by
  obtain ⟨_, bounded, deep⟩ := reachableNames_calls (referring "A" ["B"]) circle
  have run : CallStack.Reaches circle (referring "A" ["B"]).called
      ⟨⟨["B", "C"], ["A", "B", "C"]⟩, [[], [], []], ["B", "C"]⟩ :=
    .head rfl (.head rfl .refl)
  have few : (ids circle).length < 7 := by decide
  obtain ⟨once, found, calls, nested⟩ := bounded _ run
  exact ⟨_, run, rfl, rfl, once, found, calls, nested, few, deep 7 few⟩

end DocTags.Model
