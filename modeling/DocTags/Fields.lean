/-!
Named fields in the order in which their names were first given. Giving a name again replaces its
value and keeps its place.
-/

namespace DocTags

/-- Values under names, in order. -/
abbrev Fields (α : Type) := List (String × α)

namespace Fields

variable {α : Type}

def get? : Fields α → String → Option α
  | [], _ => none
  | (name, value) :: rest, wanted => if name = wanted then some value else get? rest wanted

/-- Puts a value under a name: in its place if the name is there, at the end if it is new. -/
def put : Fields α → String → α → Fields α
  | [], name, value => [(name, value)]
  | (other, old) :: rest, name, value =>
    if other = name then (name, value) :: rest else (other, old) :: put rest name value

def putAll (fields additions : Fields α) : Fields α :=
  additions.foldl (fun fields addition => fields.put addition.1 addition.2) fields

/-- The fields that arise from giving the names and values in order. -/
def ofList (additions : Fields α) : Fields α := putAll [] additions

def names (fields : Fields α) : List String := fields.map (·.1)

@[simp] theorem get?_put_self (fields : Fields α) (name : String) (value : α) :
    (fields.put name value).get? name = some value := by
  induction fields with
  | nil => simp [put, get?]
  | cons field rest ih =>
    by_cases same : field.1 = name <;> simp [put, get?, same, ih]

@[simp] theorem get?_put_of_ne (fields : Fields α) {name other : String} (value : α)
    (different : name ≠ other) : (fields.put name value).get? other = fields.get? other := by
  induction fields with
  | nil => simp [put, get?, different]
  | cons field rest ih =>
    by_cases same : field.1 = name
    · simp [put, get?, same, different]
    · simp [put, get?, same, ih]

theorem get?_append (fields others : Fields α) (wanted : String) :
    get? (fields ++ others) wanted = (fields.get? wanted).or (others.get? wanted) := by
  induction fields with
  | nil => rfl
  | cons field rest ih =>
    rw [List.cons_append, get?, get?, ih]
    split <;> rfl

theorem get?_of_mem {fields : Fields α} {name : String} {value : α}
    (distinct : fields.names.Nodup) (member : (name, value) ∈ fields) :
    fields.get? name = some value := by
  induction fields with
  | nil => cases member
  | cons field rest ih =>
    obtain ⟨notLater, laterDistinct⟩ := List.nodup_cons.mp distinct
    rw [get?]
    rcases List.mem_cons.mp member with rfl | later
    · exact if_pos rfl
    · have named : name ∈ names rest := List.mem_map_of_mem later
      have different : field.1 ≠ name := by
        rintro rfl
        exact notLater named
      rw [if_neg different, ih laterDistinct later]

/-- A name that is there keeps its place, and a new name comes last. -/
theorem names_put (fields : Fields α) (name : String) (value : α) :
    (fields.put name value).names =
      if name ∈ fields.names then fields.names else fields.names ++ [name] := by
  induction fields with
  | nil => simp [put, names]
  | cons field rest ih =>
    by_cases same : field.1 = name
    · simp [put, names, same]
    · have other : ¬ name = field.1 := fun h => same h.symm
      simp only [names] at ih
      simp only [put, names, same, if_false, List.map_cons, List.mem_cons, other, false_or, ih]
      by_cases member : name ∈ List.map (·.1) rest <;> simp [member]

theorem put_of_not_mem {fields : Fields α} {name : String} (value : α)
    (absent : name ∉ fields.names) : fields.put name value = fields ++ [(name, value)] := by
  induction fields with
  | nil => rfl
  | cons field rest ih =>
    have different : field.1 ≠ name := fun same => absent (same ▸ List.mem_cons_self)
    have absentLater : name ∉ names rest := fun later => absent (List.mem_cons_of_mem _ later)
    rw [put, if_neg different, ih absentLater, List.cons_append]

theorem putAll_of_nodup {fields additions : Fields α}
    (distinct : (names (fields ++ additions)).Nodup) :
    fields.putAll additions = fields ++ additions := by
  induction additions generalizing fields with
  | nil => exact (List.append_nil fields).symm
  | cons addition rest ih =>
    rw [List.append_cons] at distinct ⊢
    have absent : addition.1 ∉ fields.names := by
      simp only [names, List.map_append, List.nodup_append, List.mem_append] at distinct
      exact fun earlier => distinct.1.2.2 _ earlier _ List.mem_cons_self rfl
    rw [putAll, List.foldl_cons, ← putAll, put_of_not_mem _ absent, ih distinct]

/-- Where no name is given twice, all fields stand as they are given. -/
theorem ofList_of_nodup {additions : Fields α} (distinct : additions.names.Nodup) :
    ofList additions = additions :=
  putAll_of_nodup distinct

theorem get?_putAll_of_not_mem {additions : Fields α} (fields : Fields α) {name : String}
    (absent : name ∉ additions.names) : (fields.putAll additions).get? name = fields.get? name := by
  induction additions generalizing fields with
  | nil => rfl
  | cons addition rest ih =>
    have different : addition.1 ≠ name := fun same => absent (same ▸ List.mem_cons_self)
    have absentLater : name ∉ names rest := fun later => absent (List.mem_cons_of_mem _ later)
    rw [putAll, List.foldl_cons, ← putAll, ih _ absentLater, get?_put_of_ne _ _ different]

/-- Of the values given under a name the last one is found. -/
theorem get?_putAll (fields additions : Fields α) (name : String) :
    (fields.putAll additions).get? name =
      ((additions.filter (·.1 == name)).getLast?.map (·.2)).or (fields.get? name) := by
  induction additions generalizing fields with
  | nil => rfl
  | cons addition rest ih =>
    rw [putAll, List.foldl_cons, ← putAll, ih]
    by_cases same : addition.1 = name
    · rw [List.filter_cons_of_pos (by simpa using same), List.getLast?_cons, same, get?_put_self]
      cases (rest.filter (·.1 == name)).getLast? <;> rfl
    · rw [List.filter_cons_of_neg (by simpa using same), get?_put_of_ne _ _ same]

theorem mem_names_putAll {fields additions : Fields α} {name : String} :
    name ∈ (fields.putAll additions).names ↔ name ∈ fields.names ∨ name ∈ additions.names := by
  induction additions generalizing fields with
  | nil => simp [putAll, names]
  | cons addition rest ih =>
    have put : name ∈ (fields.put addition.1 addition.2).names ↔
        name ∈ fields.names ∨ name = addition.1 := by
      rw [names_put]
      split <;> simp_all
    rw [putAll, List.foldl_cons, ← putAll, ih, put, or_assoc]
    simp [names]

/-- The induction that goes with `eraseDups`, where the first item is taken out of the tail. -/
theorem eraseDups_induction {β : Type} [BEq β] {motive : List β → Prop} (nil : motive [])
    (cons : ∀ first rest, motive (rest.filter (!· == first)) → motive (first :: rest))
    (items : List β) : motive items := by
  -- The tail gets shorter in more than one place, so the induction is on the length.
  induction size : items.length using Nat.strongRecOn generalizing items with
  | _ n ih =>
    cases items with
    | nil => exact nil
    | cons first rest =>
      have bound := List.length_filter_le (!· == first) rest
      rw [List.length_cons] at size
      exact cons first rest (ih _ (by omega) _ rfl)

theorem removeAll_concat (names others : List String) (name : String) :
    names.removeAll (others ++ [name]) = (names.removeAll others).filter (!· == name) := by
  unfold List.removeAll
  rw [List.filter_filter]
  apply List.filter_congr
  intro other _
  rw [Bool.eq_iff_iff]
  simp [and_comm]

/-- Names stand in the order in which they were first given. -/
theorem names_putAll (fields additions : Fields α) :
    (fields.putAll additions).names =
      fields.names ++ (additions.names.removeAll fields.names).eraseDups := by
  induction additions generalizing fields with
  | nil => simp [putAll, names]
  | cons addition rest ih =>
    have given : names (addition :: rest) = addition.1 :: names rest := rfl
    rw [putAll, List.foldl_cons, ← putAll, ih, names_put, given]
    by_cases member : addition.1 ∈ fields.names
    · rw [if_pos member, List.cons_removeAll]
      simp [member]
    · rw [if_neg member, removeAll_concat, List.cons_removeAll]
      simp [member, List.eraseDups_cons]

theorem nodup_names_putAll {fields additions : Fields α} (distinct : fields.names.Nodup) :
    (fields.putAll additions).names.Nodup := by
  induction additions generalizing fields with
  | nil => exact distinct
  | cons addition rest ih =>
    rw [putAll, List.foldl_cons, ← putAll]
    refine ih ?_
    rw [names_put]
    split
    · exact distinct
    · rename_i absent
      rw [List.nodup_append]
      refine ⟨distinct, by simp, ?_⟩
      intro old member new added same
      rw [List.mem_singleton.mp added] at same
      exact absent (same ▸ member)

/-- A field after a value was put is that value under its name or was there before. -/
theorem mem_put {fields : Fields α} {name : String} {value : α} {field : String × α}
    (member : field ∈ fields.put name value) : field = (name, value) ∨ field ∈ fields := by
  induction fields with
  | nil => exact .inl (List.mem_singleton.mp member)
  | cons first rest ih =>
    rw [put] at member
    split at member
    · rcases List.mem_cons.mp member with same | later
      · exact .inl same
      · exact .inr (List.mem_cons_of_mem _ later)
    · rcases List.mem_cons.mp member with same | later
      · exact .inr (same ▸ List.mem_cons_self)
      · exact (ih later).imp_right (List.mem_cons_of_mem _)

theorem mem_putAll {fields additions : Fields α} {field : String × α}
    (member : field ∈ fields.putAll additions) : field ∈ fields ∨ field ∈ additions := by
  induction additions generalizing fields with
  | nil => exact .inl member
  | cons addition rest ih =>
    rcases ih member with put | later
    · rcases mem_put put with same | before
      · exact .inr (same ▸ List.mem_cons_self)
      · exact .inl before
    · exact .inr (List.mem_cons_of_mem _ later)

theorem mem_of_mem_ofList {additions : Fields α} {field : String × α}
    (member : field ∈ ofList additions) : field ∈ additions :=
  (mem_putAll member).resolve_left List.not_mem_nil

end Fields

end DocTags
