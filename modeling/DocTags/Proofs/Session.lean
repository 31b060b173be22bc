import DocTags.Session

/-!
# What holds along a session

As long as the environment stays the same, every action of a session gets the same settings, whether
they are loaded anew or were kept. Each action has its reply, and what each action keeps holds after
it. A relation that every action respects holds between any two states of a session, the earlier and
the later one, whatever becomes of the environment.
-/

namespace DocTags.Session

theorem settings_keep (session : Session) : session.keep.settings = session.settings := by
  unfold keep
  cases loaded : session.settings with
  | ok settings => rfl
  | error fault => exact loaded

theorem run_invariant {σ α : Type} {perform : Settings.Loaded → σ → α → Reply σ}
    {load : Settings.Loaded} (holds : List α → σ → Prop)
    (step : ∀ before state action, holds before state →
      holds (before ++ [action]) (perform load state action).state)
    {session : Session} (loaded : session.settings = load) {before : List α} {state : σ}
    (start : holds before state) {actions : List α} {position : Nat}
    (within : position < actions.length) :
    ∃ reply, (session.run perform state (actions.map .act))[position]? = some reply ∧
      holds (before ++ actions.take (position + 1)) reply.state := by
  induction actions generalizing session before state position with
  | nil => cases within
  | cons action actions ih =>
    have next := step before state action start
    rw [List.map_cons, run, loaded, List.take_succ_cons, List.append_cons]
    cases position with
    | zero =>
      refine ⟨_, rfl, ?_⟩
      rw [List.take_zero, List.append_nil]
      exact next
    | succ position =>
      refine ih ?_ next (Nat.lt_of_succ_lt_succ within)
      split
      · rw [settings_keep, loaded]
      · exact loaded

/-! ### States -/

/-- The states along a session, from the one that it starts with. -/
def states {σ α : Type} (perform : Settings.Loaded → σ → α → Reply σ) (session : Session)
    (state : σ) (steps : List (SessionStep α)) : List σ :=
  state :: (session.run perform state steps).map (·.state)

theorem states_pairwise {σ α : Type} {perform : Settings.Loaded → σ → α → Reply σ}
    {related : σ → σ → Prop} (refl : ∀ state, related state state)
    (trans : ∀ first second third, related first second → related second third →
      related first third)
    (step : ∀ load state action, related state (perform load state action).state)
    (session : Session) (state : σ) (steps : List (SessionStep α)) :
    (session.states perform state steps).Pairwise related := by
  induction steps generalizing session state with
  | nil => exact List.pairwise_singleton _ _
  | cons first steps ih =>
    have onward : ∀ (after : Session) (next : σ), related state next →
        (state :: after.states perform next steps).Pairwise related := by
      intro after next fromState
      have later := ih after next
      refine List.pairwise_cons.mpr ⟨?_, later⟩
      intro last member
      rcases List.mem_cons.mp member with rfl | inLater
      · exact fromState
      · exact trans _ _ _ fromState ((List.pairwise_cons.mp later).1 last inLater)
    cases first with
    | setEnvironment entries => exact onward _ _ (refl state)
    | clearSettings => exact onward _ _ (refl state)
    | act action => exact onward _ _ (step session.settings state action)

end DocTags.Session
