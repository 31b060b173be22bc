import DocTags.Parameter
import DocTags.Proofs.Grammar.NameSlot
import DocTags.Proofs.TypeRef

/-!
# Parameters are read back

A parameter that is written as a tag is read back as it was: its flags and its location stand as
options after the name, in any order and as often as one likes, and its type is the first of the
types. What follows that type is not looked at.
-/

namespace DocTags.Parameter

/-- A parameter that a tag can carry. -/
structure Writable (settings : Settings) (parameter : Parameter) : Prop where
  name : NameSlot.WritableName parameter.name
  type : parameter.type.Writable settings
  notRequired : parameter.location ≠ "required"
  notMultiple : parameter.location ≠ "multiple"
  values : parameter.allowableValues = none

/-- Options that say of a parameter whether it is required, whether it takes several values and,
after all other locations, where it is passed. -/
structure Options (parameter : Parameter) (options : List String) : Prop where
  writable : ∀ option ∈ options, NameSlot.WritableOption option
  required : "required" ∈ options ↔ parameter.required = true
  multiple : "multiple" ∈ options ↔ parameter.allowMultiple = true
  location : ∃ before after, options = before ++ parameter.location :: after ∧
    ∀ option ∈ after, option = "required" ∨ option = "multiple"

/-- A tag for the parameter; the options say the rest. -/
def written (parameter : Parameter) (tagName : String) (options others : List String) : Tag where
  tagName := tagName
  text := parameter.description
  name := some (NameSlot.written ⟨parameter.name, options⟩)
  types := parameter.type.written :: others

variable {settings : Settings} {parameter : Parameter} {options : List String}

theorem Options.location_eq (stated : parameter.Options options)
    (writable : parameter.Writable settings) : locationOf options = parameter.location := by
  obtain ⟨before, after, rfl, flags⟩ := stated.location
  have place : isFlag parameter.location = false := by
    simp [isFlag, writable.notRequired, writable.notMultiple]
  have none : after.filter (!isFlag ·) = [] := by
    rw [List.filter_eq_nil_iff]
    intro option member
    rcases flags option member with rfl | rfl <;> decide
  rw [locationOf, List.filter_append, List.filter_cons_of_pos (by simp [place]), none,
    List.getLast?_concat, Option.getD_some]

theorem contains_eq {flag : String} {set : Bool} (stated : flag ∈ options ↔ set = true) :
    options.contains flag = set := by
  rw [Bool.eq_iff_iff, List.contains_iff_mem, stated]

/-- Whatever the order of the options and however often they are repeated, the tag that was written
for a parameter is read as that parameter. -/
theorem ofTag_written (settings : Settings) (parameter : Parameter) (tagName : String)
    (options others : List String) (writable : parameter.Writable settings)
    (stated : parameter.Options options) :
    ofTag (.ok settings) (parameter.written tagName options others) = .ok parameter := by
  have slot : NameSlot.read (NameSlot.written ⟨parameter.name, options⟩) =
      ⟨parameter.name, options⟩ :=
    NameSlot.read_written writable.name stated.writable
  have filled : NameSlot.written ⟨parameter.name, options⟩ ≠ "" := by
    simp [NameSlot.written]
  have given : (some (NameSlot.written ⟨parameter.name, options⟩)).bind Text.nonempty? =
      some (NameSlot.written ⟨parameter.name, options⟩) :=
    Text.nonempty?_eq_some_iff.mpr ⟨rfl, filled⟩
  have type : TypeRef.ofTypes (.ok settings) (parameter.type.written :: others) =
      .ok parameter.type := TypeRef.parse_written writable.type
  simp only [ofTag, written, given, slot, type, contains_eq stated.required,
    contains_eq stated.multiple, stated.location_eq writable, ← writable.values]

/-- A parameter with brackets in its name and blanks around that of its type. -/
def idFilter : Parameter where
  name := "filter[ids]"
  type := ⟨" Widget ", true, .reference⟩
  description := "Only these."
  required := true
  location := "form (data"
  allowMultiple := true
  allowableValues := none

def idFilterOptions : List String := ["multiple", "body", "required", "form (data", "multiple"]

theorem ofTag_written_idFilter :
    idFilter.Writable Settings.standard ∧ idFilter.Options idFilterOptions ∧
    ofTag (.ok Settings.standard) ⟨"parameter", "Only these.",
      some "filter[ids](multiple, body, required, form (data, multiple)",
      ["Array< Widget >", "Array"]⟩ = .ok idFilter := by
  have writable : idFilter.Writable Settings.standard :=
    ⟨⟨by decide, by decide, by decide⟩,
      ⟨by decide, by decide, by decide, by decide, by decide⟩, by decide, by decide, rfl⟩
  have stated : idFilter.Options idFilterOptions := by
    refine ⟨?_, by decide, by decide, ["multiple", "body", "required"], ["multiple"], rfl, by simp⟩
    simp only [idFilterOptions, List.forall_mem_cons]
    refine ⟨?_, ?_, ?_, ?_, ?_, nofun⟩
    all_goals exact ⟨by decide, by decide, by decide, by decide⟩
  have tag : idFilter.written "parameter" idFilterOptions ["Array"] =
      ⟨"parameter", "Only these.",
        some "filter[ids](multiple, body, required, form (data, multiple)",
        ["Array< Widget >", "Array"]⟩ := by
    decide +kernel
  exact ⟨writable, stated, tag ▸ ofTag_written _ _ "parameter" _ ["Array"] writable stated⟩

end DocTags.Parameter
