import DocTags.TypeRef
import Mathlib.Data.List.Forall2

/-!
# Documents that say the same

The order in which the fields of an object stand says nothing. Two documents are alike if they are
the same up to that order, at every depth. A type can be told from its v2 document.
-/

namespace DocTags

theorem Fields.mem_of_get? {α : Type} {fields : Fields α} {name : String} {value : α}
    (found : fields.get? name = some value) : (name, value) ∈ fields := by
  induction fields with
  | nil => cases found
  | cons field rest ih =>
    rw [get?] at found
    split at found
    · rename_i same
      obtain rfl := Option.some.inj found
      rw [← same]
      exact List.mem_cons_self
    · exact List.mem_cons_of_mem _ (ih found)

/-- The same document up to the order of fields. -/
inductive Json.Alike : Json → Json → Prop where
  | null : Alike .null .null
  | bool (value : Bool) : Alike (.bool value) (.bool value)
  | int (value : Int) : Alike (.int value) (.int value)
  | real (value : RealNumeral) : Alike (.real value) (.real value)
  | text (value : String) : Alike (.text value) (.text value)
  | array {items others : List Json} (each : List.Forall₂ Alike items others) :
      Alike (.array items) (.array others)
  | object {fields others : Fields Json}
      (each : ∀ name, Option.Rel Alike (fields.get? name) (others.get? name)) :
      Alike (.object fields) (.object others)

namespace Json

variable {document other value found : Json}

theorem Alike.refl : (document : Json) → Alike document document
  | .null => .null
  | .bool value => .bool value
  | .int value => .int value
  | .real value => .real value
  | .text value => .text value
  | .array items => .array (List.forall₂_same.mpr fun item member => refl item)
  | .object fields => .object fun name => by
      cases found : Fields.get? fields name with
      | none => exact .none
      | some value =>
        -- What is found is one of the fields, and so smaller than the object.
        have member := Fields.mem_of_get? found
        exact .some (refl value)
termination_by document => sizeOf document
decreasing_by
  · have smaller := List.sizeOf_lt_of_mem member
    simp only [Json.array.sizeOf_spec]
    omega
  · have smaller := List.sizeOf_lt_of_mem member
    simp only [Json.object.sizeOf_spec, Prod.mk.sizeOf_spec] at smaller ⊢
    omega

theorem Alike.get? (alike : Alike document other) (name : String) :
    Option.Rel Alike (document.get? name) (other.get? name) := by
  cases alike with
  | object each => exact each name
  | _ => exact .none

theorem Alike.cons {fields others : Fields Json} {name : String} (first : Alike value found)
    (rest : Alike (.object fields) (.object others)) :
    Alike (.object ((name, value) :: fields)) (.object ((name, found) :: others)) := by
  cases rest with
  | object each =>
    refine .object fun wanted => ?_
    rw [Fields.get?, Fields.get?]
    split
    · exact .some first
    · exact each wanted

theorem Alike.swap {fields : Fields Json} {name otherName : String}
    (different : name ≠ otherName) :
    Alike (.object ((name, value) :: (otherName, found) :: fields))
      (.object ((otherName, found) :: (name, value) :: fields)) := by
  refine .object fun wanted => ?_
  have same : Fields.get? ((name, value) :: (otherName, found) :: fields) wanted =
      Fields.get? ((otherName, found) :: (name, value) :: fields) wanted := by
    grind [Fields.get?]
  rw [same]
  exact (refl (.object ((otherName, found) :: (name, value) :: fields))).get? wanted

/-! ### What can be told from alike documents -/

theorem Alike.text_eq {first second : String} (alike : Alike (.text first) (.text second)) :
    first = second := by
  cases alike
  rfl

theorem Alike.bool_eq {first second : Bool} (alike : Alike (.bool first) (.bool second)) :
    first = second := by
  cases alike
  rfl

theorem Alike.textOrNull_eq {first second : Option String}
    (alike : Alike (.textOrNull first) (.textOrNull second)) : first = second := by
  cases first with
  | none =>
    cases second with
    | none => rfl
    | some text => cases alike
  | some text =>
    cases second with
    | none => cases alike
    | some other => rw [alike.text_eq]

theorem Alike.items {items others : List Json} (alike : Alike (.array items) (.array others)) :
    List.Forall₂ Alike items others := by
  cases alike with
  | array each => exact each

theorem Alike.texts_eq {first second : List String}
    (alike : Alike (.texts first) (.texts second)) : first = second := by
  have each := alike.items
  rw [List.forall₂_map_left_iff, List.forall₂_map_right_iff] at each
  exact List.forall₂_eq_eq_eq ▸ each.imp fun _ _ same => same.text_eq

theorem Alike.field (alike : Alike document other) (name : String)
    (here : document.get? name = some value) (there : other.get? name = some found) :
    Alike value found := by
  have each := alike.get? name
  rw [here, there] at each
  cases each with
  | some same => exact same

theorem Alike.isSome_eq (alike : Alike document other) (name : String) :
    (document.get? name).isSome = (other.get? name).isSome := by
  have each := alike.get? name
  generalize document.get? name = value at each ⊢
  generalize other.get? name = found at each ⊢
  cases each <;> rfl

theorem Alike.only {name otherName : String}
    (alike : Alike (.object [(name, value)]) (.object [(otherName, found)])) :
    name = otherName ∧ Alike value found := by
  have same : name = otherName := by
    have both := alike.isSome_eq name
    by_contra different
    simp [Json.get?, Fields.get?, Ne.symm different] at both
  subst same
  exact ⟨rfl, alike.field name (if_pos rfl) (if_pos rfl)⟩

theorem rel_bind_get? {first second : Option Json} (each : Option.Rel Alike first second)
    (name : String) :
    Option.Rel Alike (first.bind (·.get? name)) (second.bind (·.get? name)) := by
  cases each with
  | none => exact .none
  | some alike => exact alike.get? name

/-- A value that may be left out can be told from its field if it can be told from its document. -/
theorem eq_of_rel_map {α : Type} {write : α → Json} {first second : Option α}
    (tells : ∀ {value other}, Alike (write value) (write other) → value = other)
    (each : Option.Rel Alike (first.map write) (second.map write)) : first = second := by
  cases first with
  | none =>
    cases second with
    | none => rfl
    | some value => cases each
  | some value =>
    cases second with
    | none => cases each
    | some other =>
      cases each with
      | some alike => rw [tells alike]

end Json

namespace TypeRef

variable {type other : TypeRef}

theorem get?_v2_items (type : TypeRef) :
    Json.get? (.object type.v2) "items" =
      if type.array then some (.object type.v2Element) else none := by
  unfold v2 v2Element
  cases type.array <;> cases type.isReference <;> rfl

theorem eq_of_element_alike (sameArray : type.array = other.array)
    (alike : Json.Alike (.object type.v2Element) (.object other.v2Element)) : type = other := by
  obtain ⟨name, array, kind⟩ := type
  obtain ⟨otherName, otherArray, otherKind⟩ := other
  obtain rfl : array = otherArray := sameArray
  have reference := alike.get? "$ref"
  have primitive := alike.get? "type"
  cases kind with
  | primitive =>
    cases otherKind with
    | primitive =>
      cases primitive with
      | some same =>
        obtain rfl : name = otherName := same.text_eq
        rfl
    | reference => cases reference
  | reference =>
    cases otherKind with
    | primitive => cases reference
    | reference =>
      cases reference with
      | some same =>
        obtain rfl : name = otherName := by simpa using same.text_eq
        rfl

/-- Only arrays have items, so an array is told from a type that is itself named `array`. -/
theorem eq_of_alike (alike : Json.Alike (.object type.v2) (.object other.v2)) : type = other := by
  have items := alike.get? "items"
  rw [get?_v2_items, get?_v2_items] at items
  cases array : type.array with
  | true =>
    cases otherArray : other.array with
    | true =>
      rw [array, otherArray] at items
      cases items with
      | some element => exact eq_of_element_alike (array.trans otherArray.symm) element
    | false =>
      rw [array, otherArray] at items
      cases items
  | false =>
    cases otherArray : other.array with
    | true =>
      rw [array, otherArray] at items
      cases items
    | false =>
      unfold v2 at alike
      rw [array, otherArray] at alike
      exact eq_of_element_alike (array.trans otherArray.symm) alike

end TypeRef

end DocTags
