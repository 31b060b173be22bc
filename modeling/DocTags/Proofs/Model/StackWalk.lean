import DocTags.Proofs.Model.Reachability

/-!
# The walk with a stack

The names that a model reaches can be listed without recursion: what has still to be looked behind
waits on a stack, and every step takes the top name off, lists the new names behind it and puts them
on top. `Expands.run_append` shows that the recursive walk over some names is what this loop does
with them before it comes to anything below them. So both list the same names in the same order.
-/

namespace DocTags.Model

/-- The names that the first model with a given id refers to, except those listed before and the id
`own` of the starting model. -/
def namesBehind (models : List Model) (own : Option String) (listed : List String)
    (name : String) : List String :=
  match find? models name with
  | none => []
  | some model => model.referencedNames.filter fun other => other ∉ listed ∧ some other ≠ own

def unlisted (models : List Model) (listed : List String) : List String :=
  (models.flatMap referencedNames).filter (· ∉ listed)

variable {models : List Model} {own : Option String} {listed stack : List String} {name : String}

theorem mem_unlisted_of_behind {other : String}
    (behind : other ∈ namesBehind models own listed name) : other ∈ unlisted models listed := by
  unfold namesBehind at behind
  split at behind
  · simp at behind
  · rename_i model found
    obtain ⟨referenced, new⟩ := List.mem_filter.mp behind
    have member : model ∈ models := List.mem_of_find?_eq_some found
    simp only [decide_eq_true_eq] at new
    exact List.mem_filter.mpr
      ⟨List.mem_flatMap.mpr ⟨model, member, referenced⟩, decide_eq_true new.1⟩

theorem length_unlisted_lt {new : List String} (some : new ≠ [])
    (fresh : ∀ other ∈ new, other ∈ unlisted models listed) :
    (unlisted models (listed ++ new)).length < (unlisted models listed).length := by
  obtain ⟨first, others, rfl⟩ := List.exists_cons_of_ne_nil some
  have filtered : unlisted models (listed ++ first :: others) =
      (unlisted models listed).filter (· ∉ first :: others) := by
    unfold unlisted
    rw [List.filter_filter]
    apply List.filter_congr
    intro other _
    simp [Bool.and_comm]
  rw [filtered, List.length_filter_lt_length_iff_exists]
  exact ⟨first, fresh first List.mem_cons_self, by simp⟩

/-- The loop: with an empty stack the listed names are the result. -/
def runStack (models : List Model) (own : Option String) (listed : List String) :
    (stack : List String) → List String
  | [] => listed
  | name :: stack =>
    let new := namesBehind models own listed name
    runStack models own (listed ++ new) (new ++ stack)
termination_by stack => ((unlisted models listed).length, stack.length)
decreasing_by
  -- Either something new is listed, or the stack gets shorter.
  by_cases nothing : namesBehind models own listed name = []
  · simp only [nothing, List.append_nil, List.nil_append]
    exact .right _ (Nat.lt_succ_self _)
  · exact .left _ _ (length_unlisted_lt nothing fun _ => mem_unlisted_of_behind)

/-- Lists the names that a model reaches with a stack that first holds what it refers to. -/
def stackNames (model : Model) (models : List Model) : List String :=
  let direct := model.referencedNames.filter (some · ≠ model.id)
  runStack models model.id direct direct

/-! ### Both walks agree -/

/-- A walk has seen what it has listed and the id of the starting model, and nothing else. -/
def Walk.SawListed (own : Option String) (walk : Walk) : Prop :=
  ∀ name, name ∈ walk.seen ↔ some name = own ∨ name ∈ walk.listed

variable {walk last : Walk} {model : Model} {names new : List String}

theorem Walk.Adds.sawListed (adds : walk.Adds last new) (saw : walk.SawListed own) :
    last.SawListed own := by
  intro name
  rw [adds.seen, adds.listed, List.mem_append, List.mem_append, saw name, or_assoc]

theorem Walk.SawListed.fresh (saw : walk.SawListed own) (found : find? models name = some model) :
    namesBehind models own walk.listed name = walk.fresh model := by
  simp only [namesBehind, found, Walk.fresh]
  apply List.filter_congr
  intro other _
  rw [Bool.eq_iff_iff]
  simp [saw other, and_comm]

/-- Whatever waits below them, names on top of the stack are dealt with as the recursive walk deals
with them. -/
theorem Expands.run_append (walked : Expands models walk names last) (saw : walk.SawListed own)
    (stack : List String) :
    runStack models own walk.listed (names ++ stack) = runStack models own last.listed stack := by
  induction walked generalizing stack with
  | nil walk => rfl
  | @absent walk last name names missing _ ih =>
    have nothing : namesBehind models own walk.listed name = [] := by simp [namesBehind, missing]
    rw [List.cons_append, runStack, nothing, List.append_nil, List.nil_append, ih saw]
  | @present walk mid last name names model found behind _ ihBehind ihRest =>
    have sawFresh := (walk.adds_fresh model).sawListed saw
    obtain ⟨inner, adds⟩ := behind.adds
    calc
      runStack models own walk.listed (name :: names ++ stack) =
          runStack models own (walk.listed ++ walk.fresh model)
            (walk.fresh model ++ (names ++ stack)) := by
        rw [List.cons_append, runStack, saw.fresh found]
      _ = runStack models own mid.listed (names ++ stack) := ihBehind sawFresh _
      _ = runStack models own last.listed stack := ihRest (adds.sawListed sawFresh) _

theorem sawListed_start (model : Model) : model.start.SawListed model.id := by
  intro name
  cases id : model.id <;> simp [start, id]

theorem fresh_start (model : Model) :
    model.start.fresh model = model.referencedNames.filter (some · ≠ model.id) := by
  unfold Walk.fresh
  apply List.filter_congr
  intro name _
  have unseen : name ∉ model.start.seen ↔ some name ≠ model.id := not_mem_start_seen
  simp only [List.contains_eq_mem, unseen, ← decide_not]

/-- The recursive walk lists the same names in the same order as the loop with a stack. -/
theorem reachableNames_eq_stackNames (model : Model) (models : List Model) :
    model.reachableNames models = model.stackNames models := by
  obtain ⟨last, walked, adds⟩ := reachableNames_expands model models
  have saw : (model.start.list (model.start.fresh model)).SawListed model.id :=
    (model.start.adds_fresh model).sawListed (sawListed_start model)
  have ran := walked.run_append saw []
  have listed : last.listed = model.reachableNames models := adds.listed
  rw [List.append_nil, runStack, listed, fresh_start] at ran
  exact ran.symm

-- What lies behind `D` comes before what lies behind `C`, although `C` was listed first.
example : (referring "A" ["B", "C"]).stackNames
    [referring "B" ["D"], referring "C" ["E", "D"], referring "D" ["A", "F"]] =
      ["B", "C", "D", "F", "E"] := by
  cbv

end DocTags.Model
