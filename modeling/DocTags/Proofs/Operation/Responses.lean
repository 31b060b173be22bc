import DocTags.Proofs.Operation.Recovery
import DocTags.Proofs.Text.Numeral

/-!
# The responses of an operation

The responses in a v2 document stand under `default` and under the codes of the error messages, each
code once. A code that is given again keeps its place, and the last message with it is written.
Codes come from the name slots of `@error_message` tags, where one integer has many spellings; all
of them lead to one response.
-/

namespace DocTags

/-- A tag that gives an error message for a code, in one of the spellings of the code. -/
def Tag.Spells (tag : Tag) (code : Int) : Prop :=
  tag.tagName = "error_message" ∧
    ∃ slot ∈ tag.name, ∃ numeral : Text.Numeral, numeral.Of slot.toList ∧ numeral.Spells code

namespace Operation

/-- The codes of the error messages, each once, in the order in which they first appear. -/
def errorCodes (operation : Operation) : List Int :=
  (operation.errorMessages.map (·.code)).eraseDups

structure Responds (load : Settings.Loaded) (operation : Operation) (responses : Fields Json) :
    Prop where
  names : responses.names = "default" :: operation.errorCodes.map toString
  distinct : responses.names.Nodup
  number : responses.length = 1 + operation.errorCodes.length
  default : responses.get? "default" = some operation.defaultResponse
  entry : ∀ code ∈ operation.errorCodes, ∃ error ∈ operation.lastError? code,
    ∃ response, error.v2 load = .ok response ∧ responses.get? (toString code) = some response

variable {load : Settings.Loaded} {settings : Settings} {operation : Operation} {tag : Tag}
  {tags before after : List Tag} {error : ErrorMessage} {errors : List ErrorMessage} {code : Int}

/-! ### Keys -/

theorem eraseDups_map_toString (codes : List Int) :
    (codes.map toString).eraseDups = codes.eraseDups.map toString := by
  induction codes using Fields.eraseDups_induction with
  | nil => rfl
  | cons code rest ih =>
    have printed : ((fun key => !key == toString code) ∘ toString : Int → Bool) =
        fun other => !other == code := by
      funext other
      rw [Function.comp_apply, toString_code_beq]
    rw [List.map_cons, List.eraseDups_cons, List.eraseDups_cons, List.map_cons, List.filter_map,
      printed, ih]

theorem addResponses_eq_putAll {responses result : Fields Json}
    (gathered : addResponses load responses errors = .ok result) :
    ∃ additions : Fields Json, additions.names = errors.map (toString ·.code) ∧
      result = responses.putAll additions := by
  induction errors generalizing responses with
  | nil => exact ⟨[], rfl, (Except.ok.inj gathered).symm⟩
  | cons error errors ih =>
    rw [addResponses] at gathered
    split at gathered
    · rename_i response _
      obtain ⟨additions, named, rfl⟩ := ih gathered
      refine ⟨(toString error.code, response) :: additions, ?_, rfl⟩
      rw [List.map_cons, ← named]
      rfl
    · cases gathered

theorem names_responses {responses : Fields Json}
    (gathered : operation.responses load = .ok responses) :
    responses.names = "default" :: operation.errorCodes.map toString ∧ responses.names.Nodup := by
  obtain ⟨additions, named, rfl⟩ := addResponses_eq_putAll gathered
  have foreign : additions.names.removeAll ["default"] = additions.names := by
    rw [List.removeAll, List.filter_eq_self, named]
    intro name member
    obtain ⟨error, _, rfl⟩ := List.mem_map.mp member
    simpa using toString_code_ne_default error.code
  have codes : additions.names.eraseDups = operation.errorCodes.map toString := by
    rw [errorCodes, ← eraseDups_map_toString, List.map_map, named]
    rfl
  have start : Fields.names [("default", operation.defaultResponse)] = ["default"] := rfl
  constructor
  · rw [Fields.names_putAll, start, foreign, codes]
    rfl
  · apply Fields.nodup_names_putAll
    simp [start]

theorem mem_errorCodes :
    code ∈ operation.errorCodes ↔ ∃ error, operation.lastError? code = some error := by
  rw [errorCodes, List.mem_eraseDups, ← Option.isSome_iff_exists, lastError?, List.getLast?_isSome]
  simp

theorem responds_of_gathered {responses : Fields Json}
    (gathered : operation.responses load = .ok responses) :
    operation.Responds load responses := by
  obtain ⟨names, distinct⟩ := names_responses gathered
  refine ⟨names, distinct, ?_, get?_responses_default gathered, ?_⟩
  · have counted := congrArg List.length names
    simp only [Fields.names, List.length_map, List.length_cons] at counted
    omega
  · intro code listed
    obtain ⟨error, last⟩ := mem_errorCodes.mp listed
    rcases get?_addResponses gathered (toString code) with
      ⟨found, response, isLast, written, entry⟩ | ⟨none, _⟩
    · rw [lastError?_eq] at isLast
      exact ⟨found, isLast, response, written, entry⟩
    · rw [← lastError?_eq, none] at last
      cases last

/-! ### Codes in tags -/

theorem ofTag_of_spells (spells : tag.Spells code) :
    ErrorMessage.ofTag tag = .ok ⟨code, tag.text, tag.types.head?⟩ := by
  obtain ⟨_, slot, given, numeral, of, spelled⟩ := spells
  have read : (tag.name.bind fun slot => Text.readInt? slot.toList) = some code :=
    Option.bind_eq_some_iff.mpr
      ⟨slot, given, Text.readInt?_eq_some_iff.mpr ⟨numeral, of, numeral.spells_iff.mp spelled⟩⟩
  simp only [ErrorMessage.ofTag, read]

theorem spells_of_ofTag (named : tag.tagName = "error_message")
    (read : ErrorMessage.ofTag tag = .ok error) : tag.Spells error.code := by
  unfold ErrorMessage.ofTag at read
  split at read
  · rename_i code readCode
    obtain rfl := Except.ok.inj read
    obtain ⟨slot, given, readSlot⟩ := Option.bind_eq_some_iff.mp readCode
    obtain ⟨numeral, of, value⟩ := Text.readInt?_eq_some_iff.mp readSlot
    exact ⟨named, slot, given, numeral, of, numeral.spells_iff.mpr value⟩
  · cases read

theorem Described.lastError?_of_spells
    (said : Described settings (before ++ tag :: after) operation)
    (spells : tag.Spells code) (last : ∀ later ∈ after, ¬ later.Spells code) :
    operation.lastError? code = some ⟨code, tag.text, tag.types.head?⟩ := by
  have errors := said.errors
  have named : Tag.named (before ++ tag :: after) "error_message" =
      Tag.named before "error_message" ++ tag :: Tag.named after "error_message" := by
    simp [Tag.named, spells.1]
  rw [named, List.map_append, List.map_cons, ofTag_of_spells spells] at errors
  -- The error messages before and after that of the tag come from the tags before and after it.
  obtain ⟨earlier, rest, whole, _, readRest⟩ := List.map_eq_append_iff.mp errors.symm
  obtain ⟨own, later, rfl, isOwn, readLater⟩ := List.map_eq_cons_iff.mp readRest
  obtain rfl := Except.ok.inj isOwn
  have others : later.filter (·.code == code) = [] := by
    rw [List.filter_eq_nil_iff]
    intro error member same
    have read : Except.ok error ∈ (Tag.named after "error_message").map ErrorMessage.ofTag := by
      rw [← readLater]
      exact List.mem_map_of_mem member
    obtain ⟨other, isNamed, readOther⟩ := List.mem_map.mp read
    obtain ⟨inAfter, sameName⟩ := List.mem_filter.mp isNamed
    obtain rfl : error.code = code := beq_iff_eq.mp same
    exact last other inAfter (spells_of_ofTag (beq_iff_eq.mp sameName) readOther)
  rw [lastError?, whole, List.filter_append, List.filter_cons_of_pos (by simp), others]
  exact List.getLast?_concat

/-- The responses in a v2 document stand under `default` and the codes in the order in which they
first appear, one under each; that of a code is made from the last error message with it. So of the
tags that spell one code the last one counts, however they spell it. -/
theorem v2_responses (load : Settings.Loaded) (operation : Operation) (document : Json)
    (written : operation.v2 load = .ok document) :
    ∃ (method : String) (responses : Fields Json), operation.httpMethod = some method ∧
      (document.get? (Text.lowered method)).bind (·.get? "responses") = some (.object responses) ∧
      operation.Responds load responses ∧
      ∀ declaration api before tag after code,
        (ofDeclaration load declaration api).result = .ok operation →
        declaration.tags = before ++ tag :: after → tag.Spells code →
        (∀ later ∈ after, ¬ later.Spells code) →
        responses.names.count (toString code) = 1 ∧
        ∃ response, ErrorMessage.v2 load ⟨code, tag.text, tag.types.head?⟩ = .ok response ∧
          responses.get? (toString code) = some response := by
  obtain ⟨method, responses, given, gathered, rfl⟩ := v2_written written
  have responds := responds_of_gathered gathered
  refine ⟨method, responses, given, ?_, responds, ?_⟩
  · have found : Json.get? (.object [(Text.lowered method, .object (operation.v2Fields responses))])
        (Text.lowered method) = some (.object (operation.v2Fields responses)) := by
      simp [Json.get?, Fields.get?]
    rw [found]
    rfl
  · intro declaration api before tag after code built tags spells last
    obtain ⟨settings, rfl, said⟩ := described_of_built built
    rw [tags] at said
    have isLast := said.lastError?_of_spells spells last
    have listed : code ∈ operation.errorCodes := mem_errorCodes.mpr ⟨_, isLast⟩
    obtain ⟨error, found, response, errorWritten, entry⟩ := responds.entry code listed
    obtain rfl := Option.some.inj (isLast.symm.trans found)
    refine ⟨List.count_eq_one_of_mem responds.distinct ?_, response, errorWritten, entry⟩
    rw [responds.names]
    exact List.mem_cons_of_mem _ (List.mem_map_of_mem listed)

/-- A method with three spellings of one status code, and that code with a minus sign. -/
def respelled : Declaration where
  type := "method"
  tags :=
    [⟨"path", "/widgets", none, ["GET"]⟩,
     ⟨"error_message", "Gone", some "0404", []⟩,
     ⟨"error_message", "Broken", some "500", []⟩,
     ⟨"error_message", "Absent", some " +4_04 ", []⟩,
     ⟨"error_message", "Missing", some "٤٠٤", ["Error"]⟩,
     ⟨"error_message", "Odd", some "-404", []⟩]
  path := none

def respelledOperation : Operation where
  api := ⟨none, none⟩
  path := some "/widgets"
  httpMethod := some "GET"
  summary := none
  notes := none
  parameters := (Parameter.format (.ok Settings.standard)).toOption.toList
  responseType := none
  errorMessages :=
    [⟨404, "Gone", none⟩, ⟨500, "Broken", none⟩, ⟨404, "Absent", none⟩,
     ⟨404, "Missing", some "Error"⟩, ⟨-404, "Odd", none⟩]
  modelNames := []

theorem v2_responses_respelled :
    (ofDeclaration (.ok Settings.standard) respelled ⟨none, none⟩).result = .ok respelledOperation ∧
    ∃ (document : Json) (responses : Fields Json),
      respelledOperation.v2 (.ok Settings.standard) = .ok document ∧
      (document.get? "get").bind (·.get? "responses") = some (.object responses) ∧
      responses.names = ["default", "404", "500", "-404"] ∧
      responses.get? "404" = some (.object [("description", .text "Missing"),
        ("schema", .object (TypeRef.v2 ⟨"Error", false, .reference⟩))]) := by
  have built : (ofDeclaration (.ok Settings.standard) respelled ⟨none, none⟩).result =
      .ok respelledOperation := by decide +kernel
  obtain ⟨document, written⟩ :
      ∃ document, respelledOperation.v2 (.ok Settings.standard) = .ok document := ⟨_, rfl⟩
  have spells : Tag.Spells ⟨"error_message", "Missing", some "٤٠٤", ["Error"]⟩ 404 := by
    have four : Text.digitValue? '٤' = some 4 := by decide
    have zero : Text.digitValue? '٠' = some 0 := by decide
    have grouped : Text.Grouped [['٤', '٠', '٤']] := by
      simp [Text.Grouped, Text.isDecimalDigit, four, zero]
    refine ⟨rfl, "٤٠٤", rfl, ⟨[], none, [['٤', '٠', '٤']], []⟩, ?_, ?_⟩
    · exact ⟨rfl, by simp, by simp, grouped, by decide, by simp⟩
    · exact ⟨by simp [Text.Numeral.digits, four, zero], by simp⟩
  have last : ∀ later ∈ [(⟨"error_message", "Odd", some "-404", []⟩ : Tag)],
      ¬ later.Spells 404 := by
    intro later member spelled
    obtain rfl := List.mem_singleton.mp member
    have read := ofTag_of_spells spelled
    cases read
  obtain ⟨method, responses, given, found, responds, bySpelling⟩ :=
    v2_responses _ respelledOperation document written
  obtain rfl := Option.some.inj given
  obtain ⟨_, response, errorWritten, entry⟩ :=
    bySpelling respelled ⟨none, none⟩ (respelled.tags.take 4) _ _ 404 built rfl spells last
  obtain rfl := Except.ok.inj errorWritten
  exact ⟨built, document, responses, written, found, responds.names, entry⟩

end Operation

end DocTags
