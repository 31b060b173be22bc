import DocTags.Proofs.Text.Pieces
import DocTags.TypeRef

/-!
# When a type can be read

A type has no name exactly if nothing but angle brackets is left of its text once the blanks around
it are gone. Such a text is refused whatever the settings are; any other text is read as soon as the
settings are there. A type that is written as its name, or as `Array<name>`, is read back as it was.
-/

namespace DocTags

namespace TypeRef

/-- Nothing but angle brackets is left of a text without the blanks around it. -/
def Unnamed (raw : String) : Prop := ∀ c ∈ Text.trim raw.toList, c = '<' ∨ c = '>'

instance (raw : String) : Decidable (Unnamed raw) :=
  List.decidableBAll (fun c => c = '<' ∨ c = '>') (Text.trim raw.toList)

variable {raw : String}

theorem fragments_eq_nil_iff : fragments raw.toList = [] ↔ Unnamed raw := by
  have nothingKept : fragments raw.toList = [] ↔
      (Text.pieces isAngle (Text.trim raw.toList)).flatten = [] := by
    rw [fragments, List.filter_eq_nil_iff, List.flatten_eq_nil_iff]
    simp
  rw [nothingKept, Text.flatten_pieces, List.filter_eq_nil_iff, Unnamed]
  simp [isAngle, Decidable.or_iff_not_imp_left]

theorem parse_of_unnamed (load : Settings.Loaded) (unnamed : Unnamed raw) :
    parse load raw = .error (.ofCause (.emptyType raw) none) := by
  rw [parse, fragments_eq_nil_iff.mpr unnamed]
  rfl

/-- A reader for which only the kind of one type is open once it asks for the settings; `build`
makes its result from that type. -/
def Classifying {α : Type} (read : Settings.Loaded → Except Failure α) (build : TypeRef → α) :
    Prop :=
  ∃ name array, ∀ load, read load = (classified load name array).map build

namespace Classifying

variable {α : Type} {read : Settings.Loaded → Except Failure α} {build : TypeRef → α}

theorem loaded (classifying : Classifying read build) (settings : Settings) :
    ∃ value, read (.ok settings) = .ok value := by
  obtain ⟨name, array, same⟩ := classifying
  exact ⟨build ⟨name, array, classify settings name⟩, same (.ok settings)⟩

theorem unloaded (classifying : Classifying read build) (fault : Settings.Fault) :
    read (.error fault) = .error (.unclassified fault) := by
  obtain ⟨name, array, same⟩ := classifying
  exact same (.error fault)

end Classifying

theorem parse_classifying (named : ¬ Unnamed raw) : Classifying (parse · raw) id := by
  cases last : (fragments raw.toList).getLast? with
  | none => exact absurd (fragments_eq_nil_iff.mp (List.getLast?_eq_none_iff.mp last)) named
  | some name =>
    refine ⟨String.ofList name, (fragments raw.toList).any isArrayWord, fun load => ?_⟩
    simp only [parse, last]
    cases load <;> rfl

theorem parse_of_named (settings : Settings) (named : ¬ Unnamed raw) :
    ∃ type, parse (.ok settings) raw = .ok type :=
  (parse_classifying named).loaded settings

/-- What is wrong with the types of a tag that needs one. -/
inductive Faulty : List String → TagError.Cause → Prop where
  | missing : Faulty [] .withoutType
  | unnamed {raw : String} {others : List String} (unnamed : Unnamed raw) :
      Faulty (raw :: others) (.emptyType raw)

theorem ofTypes_of_faulty (load : Settings.Loaded) {types : List String} {cause : TagError.Cause}
    (faulty : Faulty types cause) : ofTypes load types = .error (.ofCause cause none) := by
  cases faulty with
  | missing => rfl
  | unnamed unnamed => exact parse_of_unnamed load unnamed

theorem ofTypes_classifying {types : List String} (sound : ∀ cause, ¬ Faulty types cause) :
    Classifying (ofTypes · types) id := by
  cases types with
  | nil => exact absurd .missing (sound _)
  | cons raw others => exact parse_classifying fun unnamed => sound _ (.unnamed unnamed)

/-! ### Types that were written -/

def written (type : TypeRef) : String :=
  if type.array then "Array<" ++ type.name ++ ">" else type.name

/-- A type that can be told from its name: the name stands between brackets or alone, and settings
give it the kind that the type has. -/
structure Writable (settings : Settings) (type : TypeRef) : Prop where
  named : type.name ≠ ""
  opening : '<' ∉ type.name.toList
  closing : '>' ∉ type.name.toList
  kind : type.kind = classify settings type.name
  alone : type.array = false → Text.Trimmed type.name ∧ Text.lowered type.name ≠ "array"

variable {settings : Settings} {type : TypeRef}

theorem Writable.free (writable : type.Writable settings) :
    ∀ c ∈ type.name.toList, isAngle c = false := by
  intro c member
  have opening : c ≠ '<' := fun same => writable.opening (same ▸ member)
  have closing : c ≠ '>' := fun same => writable.closing (same ▸ member)
  simp [isAngle, opening, closing]

theorem Writable.fragments (writable : type.Writable settings) :
    fragments type.written.toList =
      (if type.array then ["Array".toList] else []) ++ [type.name.toList] := by
  have filled : type.name.toList ≠ [] := by simpa using writable.named
  unfold TypeRef.fragments written
  cases array : type.array with
  | true =>
    have bracketed : ("Array<" ++ type.name ++ ">").toList =
        'A' :: (("rray<".toList ++ type.name.toList) ++ ['>']) := by
      simp
    have cut : 'A' :: (("rray<".toList ++ type.name.toList) ++ ['>']) =
        "Array".toList ++ '<' :: (type.name.toList ++ '>' :: []) := by
      simp
    have letters : ∀ c ∈ "Array".toList, isAngle c = false := by simp [isAngle]
    rw [if_pos rfl, bracketed, Text.trim_of_bounded (by decide) (by decide), cut,
      Text.pieces_append_cons letters rfl, Text.pieces_append_cons writable.free rfl]
    simp [Text.pieces, filled]
  | false =>
    have trimmed : Text.trim type.name.toList = type.name.toList := (writable.alone array).1
    rw [if_neg (by simp), trimmed, Text.pieces_of_free writable.free]
    simp [filled]

theorem parse_written (writable : type.Writable settings) :
    parse (.ok settings) type.written = .ok type := by
  have isArray : ((if type.array then ["Array".toList] else []) ++ [type.name.toList]).any
      isArrayWord = type.array := by
    cases array : type.array with
    | true => rfl
    | false =>
      have other : isArrayWord type.name.toList = false := by
        rw [isArrayWord, beq_eq_false_iff_ne]
        intro same
        exact (writable.alone array).2 (by rw [Text.lowered, same]; rfl)
      simp [other]
  rw [parse, writable.fragments, List.getLast?_concat]
  simp only [isArray, classified, String.ofList_toList, ← writable.kind]

end TypeRef

end DocTags
