import DocTags.Operation.Basic

/-!
# The order of parameters

Parameters are sorted by the code points of their names, and parameters of one name keep their
order. This determines the sorted list: `StableSort` has exactly one solution, and `sortParameters`
finds it.
-/

namespace DocTags

def Text.codes (text : String) : List Nat := text.toList.map Char.toNat

def Parameter.Precedes (first second : Parameter) : Prop :=
  List.Lex (· < ·) (Text.codes first.name) (Text.codes second.name)

/-- `sorted` holds the given parameters in the order of their names, and those of one name in the
given order. -/
structure StableSort (given sorted : List Parameter) : Prop where
  perm : sorted.Perm given
  ordered : sorted.Pairwise fun first second => ¬ second.Precedes first
  stable : ∀ name, sorted.filter (·.name == name) = given.filter (·.name == name)

variable {given sorted other : List Parameter} {first second : Parameter}

theorem Text.notAfter_iff (as bs : List Char) :
    notAfter as bs = true ↔ ¬ List.Lex (· < ·) (bs.map Char.toNat) (as.map Char.toNat) := by
  induction as generalizing bs with
  | nil => simp [notAfter]
  | cons a as ih =>
    cases bs with
    | nil => simp [notAfter]
    | cons b bs =>
      rw [notAfter, List.map_cons, List.map_cons, List.cons_lex_cons_iff]
      by_cases less : a.toNat < b.toNat
      · simp [less, Nat.lt_asymm less, Nat.ne_of_gt less]
      · by_cases more : b.toNat < a.toNat
        · simp [less, more]
        · have same : a.toNat = b.toNat := by omega
          simp [same, ih]

namespace Parameter

theorem namesInOrder_iff : first.namesInOrder second = true ↔ ¬ second.Precedes first :=
  Text.notAfter_iff _ _

theorem namesInOrder_of_name_eq (same : first.name = second.name) :
    first.namesInOrder second = true := by
  have total := Text.notAfter_total first.name.toList first.name.toList
  rw [Bool.or_self] at total
  rw [namesInOrder, ← same]
  exact total

theorem name_eq_of_not_precedes (forth : ¬ second.Precedes first) (back : ¬ first.Precedes second) :
    first.name = second.name :=
  String.toList_inj.mp
    (Text.notAfter_antisymm (namesInOrder_iff.mpr forth) (namesInOrder_iff.mpr back))

theorem namesInOrder_trans (a b c : Parameter) (first : a.namesInOrder b = true)
    (second : b.namesInOrder c = true) : a.namesInOrder c = true :=
  Text.notAfter_trans _ _ _ first second

theorem namesInOrder_total (a b : Parameter) : (a.namesInOrder b || b.namesInOrder a) = true :=
  Text.notAfter_total _ _

/-! ### Sorting -/

theorem filter_mergeSort (given : List Parameter) (name : String) :
    (given.mergeSort namesInOrder).filter (·.name == name) = given.filter (·.name == name) := by
  have inOrder : (given.filter (·.name == name)).Pairwise (namesInOrder · ·) := by
    apply List.pairwise_of_forall_mem_list
    intro first firstMember second secondMember
    have firstName := beq_iff_eq.mp (List.mem_filter.mp firstMember).2
    have secondName := beq_iff_eq.mp (List.mem_filter.mp secondMember).2
    exact namesInOrder_of_name_eq (firstName.trans secondName.symm)
  -- What is in order before sorting is still there, in this order, after it.
  have kept : (given.filter (·.name == name)).Sublist (given.mergeSort namesInOrder) :=
    List.sublist_mergeSort namesInOrder_trans namesInOrder_total inOrder List.filter_sublist
  have within := kept.filter (·.name == name)
  rw [List.filter_filter] at within
  simp only [Bool.and_self] at within
  have sameLength := ((List.mergeSort_perm given namesInOrder).filter (·.name == name)).length_eq
  exact (within.eq_of_length sameLength.symm).symm

theorem mergeSort_stableSort (given : List Parameter) :
    StableSort given (given.mergeSort namesInOrder) where
  perm := List.mergeSort_perm given namesInOrder
  ordered := by
    have sorted := List.pairwise_mergeSort namesInOrder_trans namesInOrder_total given
    exact sorted.imp (fun inOrder => namesInOrder_iff.mp inOrder)
  stable := filter_mergeSort given

end Parameter

/-! ### Only one list is sorted -/

theorem mem_of_filter_eq
    (same : ∀ name, sorted.filter (·.name == name) = other.filter (·.name == name))
    (member : first ∈ sorted) : first ∈ other := by
  have inFilter : first ∈ sorted.filter (·.name == first.name) :=
    List.mem_filter.mpr ⟨member, beq_self_eq_true _⟩
  rw [same] at inFilter
  exact (List.mem_filter.mp inFilter).1

/-- Two ordered lists that agree on the parameters of each name are the same. -/
theorem eq_of_ordered (orderedSorted : sorted.Pairwise fun first second => ¬ second.Precedes first)
    (orderedOther : other.Pairwise fun first second => ¬ second.Precedes first)
    (same : ∀ name, sorted.filter (·.name == name) = other.filter (·.name == name)) :
    sorted = other := by
  induction sorted generalizing other with
  | nil =>
    cases other with
    | nil => rfl
    | cons b bs =>
      have member : b ∈ [] := mem_of_filter_eq (fun name => (same name).symm) List.mem_cons_self
      exact absurd member List.not_mem_nil
  | cons a as ih =>
    cases other with
    | nil => exact absurd (mem_of_filter_eq same List.mem_cons_self) List.not_mem_nil
    | cons b bs =>
      -- The heads do not precede each other, so they have one name and head its parameters.
      have names : a.name = b.name := by
        have second : b ∈ a :: as :=
          mem_of_filter_eq (fun name => (same name).symm) List.mem_cons_self
        have first : a ∈ b :: bs := mem_of_filter_eq same List.mem_cons_self
        rcases List.mem_cons.mp second with rfl | laterB
        · rfl
        · rcases List.mem_cons.mp first with rfl | laterA
          · rfl
          · exact Parameter.name_eq_of_not_precedes
              ((List.pairwise_cons.mp orderedSorted).1 b laterB)
              ((List.pairwise_cons.mp orderedOther).1 a laterA)
      have heads := same a.name
      rw [List.filter_cons_of_pos (by simp), List.filter_cons_of_pos (by simp [names])] at heads
      obtain ⟨rfl, _⟩ := List.cons.inj heads
      have tails : ∀ name, as.filter (·.name == name) = bs.filter (·.name == name) := by
        intro name
        have whole := same name
        rw [List.filter_cons, List.filter_cons] at whole
        split at whole
        · exact (List.cons.inj whole).2
        · exact whole
      rw [ih (List.pairwise_cons.mp orderedSorted).2 (List.pairwise_cons.mp orderedOther).2 tails]

/-- The parameters of an operation can be sorted in one way only. -/
theorem StableSort.unique (first : StableSort given sorted) (second : StableSort given other) :
    sorted = other :=
  eq_of_ordered first.ordered second.ordered
    (fun name => (first.stable name).trans (second.stable name).symm)

/-- What is sorted depends on nothing but the order in which parameters of one name are given. -/
theorem mergeSort_eq_of_filter_eq
    (same : ∀ name, given.filter (·.name == name) = other.filter (·.name == name)) :
    given.mergeSort Parameter.namesInOrder = other.mergeSort Parameter.namesInOrder := by
  have sorted := Parameter.mergeSort_stableSort given
  have sortedOther := Parameter.mergeSort_stableSort other
  apply eq_of_ordered sorted.ordered sortedOther.ordered
  intro name
  rw [sorted.stable, sortedOther.stable, same]

end DocTags
