import DocTags.Operation.Document
import DocTags.Proofs.Operation.Description
import DocTags.Proofs.TypeRef

/-!
# Writing operations

An operation with a path can always be written in the legacy dialect. The v2 dialect also reads the
types of its error responses, and these are the only types that are kept unread until then: an error
response whose type has no name is taken in without complaint and refused when the operation is
written. Responses stand under their codes, and no two codes are written alike.
-/

namespace DocTags

variable {load : Settings.Loaded} {settings : Settings} {failure : Failure}

/-! ### Error responses -/

theorem ErrorMessage.v2_of_unnamed {error : ErrorMessage} {raw : String}
    (model : error.responseModel = some raw) (unnamed : TypeRef.Unnamed raw) :
    error.v2 load = .error (.ofCause (.emptyType raw) none) := by
  unfold ErrorMessage.v2
  simp only [model, TypeRef.parse_of_unnamed load unnamed]

theorem ErrorMessage.v2_failure {error : ErrorMessage}
    (refused : error.v2 (.ok settings) = .error failure) :
    ∃ raw ∈ error.responseModel,
      TypeRef.Unnamed raw ∧ failure = .ofCause (.emptyType raw) none := by
  cases model : error.responseModel with
  | none =>
    rw [ErrorMessage.v2, model] at refused
    cases refused
  | some raw =>
    by_cases unnamed : TypeRef.Unnamed raw
    · rw [ErrorMessage.v2_of_unnamed model unnamed] at refused
      exact ⟨raw, rfl, unnamed, (Except.error.inj refused).symm⟩
    · obtain ⟨type, read⟩ := TypeRef.parse_of_named settings unnamed
      simp only [ErrorMessage.v2, model, read] at refused
      cases refused

theorem ErrorMessage.responseModel_ofTag {tag : Tag} {error : ErrorMessage}
    (read : ErrorMessage.ofTag tag = .ok error) : error.responseModel = tag.types.head? := by
  unfold ErrorMessage.ofTag at read
  split at read
  · rw [← Except.ok.inj read]
  · cases read

namespace Operation

variable {operation : Operation} {errors : List ErrorMessage} {tags : List Tag}

theorem addResponses_failure {responses : Fields Json}
    (failed : addResponses load responses errors = .error failure) :
    ∃ error ∈ errors, error.v2 load = .error failure := by
  induction errors generalizing responses with
  | nil => cases failed
  | cons error errors ih =>
    rw [addResponses] at failed
    split at failed
    · obtain ⟨later, member, refused⟩ := ih failed
      exact ⟨later, List.mem_cons_of_mem _ member, refused⟩
    · rename_i own refused
      obtain rfl := Except.error.inj failed
      exact ⟨error, List.mem_cons_self, refused⟩

theorem addResponses_written {responses result : Fields Json}
    (succeeded : addResponses load responses errors = .ok result) :
    ∀ error ∈ errors, ∃ response, error.v2 load = .ok response := by
  induction errors generalizing responses with
  | nil => simp
  | cons error errors ih =>
    rw [addResponses] at succeeded
    split at succeeded
    · rename_i response first
      exact List.forall_mem_cons.mpr ⟨⟨response, first⟩, ih succeeded⟩
    · cases succeeded

/-- Under a key stands the response of the last error message whose code is written that way. -/
theorem get?_addResponses {responses result : Fields Json}
    (gathered : addResponses load responses errors = .ok result) (key : String) :
    (∃ error response, (errors.filter (toString ·.code == key)).getLast? = some error ∧
      error.v2 load = .ok response ∧ result.get? key = some response) ∨
    (errors.filter (toString ·.code == key) = [] ∧ result.get? key = responses.get? key) := by
  induction errors generalizing responses with
  | nil => exact .inr ⟨rfl, by rw [← Except.ok.inj gathered]⟩
  | cons error errors ih =>
    rw [addResponses] at gathered
    split at gathered
    · rename_i response written
      rcases ih gathered with ⟨last, lastResponse, isLast, lastWritten, found⟩ | ⟨none, kept⟩
      · refine .inl ⟨last, lastResponse, ?_, lastWritten, found⟩
        rw [List.filter_cons]
        split
        · rw [List.getLast?_cons, isLast, Option.getD_some]
        · exact isLast
      · by_cases same : toString error.code = key
        · refine .inl ⟨error, response, ?_, written, ?_⟩
          · rw [List.filter_cons_of_pos (by simpa using same), none, List.getLast?_singleton]
          · rw [kept, same, Fields.get?_put_self]
        · refine .inr ⟨?_, ?_⟩
          · rw [List.filter_cons_of_neg (by simpa using same), none]
          · rw [kept, Fields.get?_put_of_ne _ _ same]
    · cases gathered

/-! ### Codes as keys -/

theorem toList_toString_ofNat (n : Nat) :
    (toString (Int.ofNat n)).toList = Nat.toDigits 10 n :=
  Nat.toList_repr

theorem toList_toString_negSucc (n : Nat) :
    (toString (Int.negSucc n)).toList = '-' :: Nat.toDigits 10 (n + 1) := by
  rw [show toString (Int.negSucc n) = "-" ++ (n + 1).repr from rfl, String.toList_append,
    Nat.toList_repr]
  rfl

theorem not_mem_toDigits {c : Char} (letter : c.isDigit = false) (n : Nat) :
    c ∉ Nat.toDigits 10 n := by
  intro member
  rw [Nat.isDigit_of_mem_toDigits (by decide) (by decide) member] at letter
  cases letter

theorem toString_code_ne_default (code : Int) : toString code ≠ "default" := by
  intro same
  have letters := congrArg String.toList same
  cases code with
  | ofNat n =>
    rw [toList_toString_ofNat] at letters
    exact not_mem_toDigits (c := 'd') (by decide) n (letters ▸ by decide)
  | negSucc n =>
    rw [toList_toString_negSucc] at letters
    exact absurd (List.cons.inj letters).1 (by decide)

theorem toString_ofNat_ne_negSucc (m n : Nat) :
    toString (Int.ofNat m) ≠ toString (Int.negSucc n) := by
  intro same
  have letters := congrArg String.toList same
  rw [toList_toString_ofNat, toList_toString_negSucc] at letters
  exact not_mem_toDigits (c := '-') (by decide) m (letters ▸ List.mem_cons_self)

/-- Error messages share a key only if they share a code. -/
theorem toString_code_inj {code other : Int} : toString code = toString other ↔ code = other := by
  have unread : ∀ {m n : Nat}, Nat.toDigits 10 m = Nat.toDigits 10 n → m = n := by
    intro m n digits
    rw [← Nat.ofDigitChars_ten_toDigits (n := m), digits, Nat.ofDigitChars_ten_toDigits]
  refine ⟨?_, congrArg toString⟩
  intro same
  have letters := congrArg String.toList same
  cases code with
  | ofNat m =>
    cases other with
    | ofNat n =>
      rw [toList_toString_ofNat, toList_toString_ofNat] at letters
      exact congrArg Int.ofNat (unread letters)
    | negSucc n => exact absurd same (toString_ofNat_ne_negSucc m n)
  | negSucc m =>
    cases other with
    | ofNat n => exact absurd same.symm (toString_ofNat_ne_negSucc n m)
    | negSucc n =>
      rw [toList_toString_negSucc, toList_toString_negSucc] at letters
      exact congrArg Int.negSucc (Nat.succ.inj (unread (List.cons.inj letters).2))

theorem toString_code_beq (code other : Int) :
    (toString code == toString other) = (code == other) := by
  rw [Bool.eq_iff_iff, beq_iff_eq, beq_iff_eq]
  exact toString_code_inj

/-! ### Documents -/

theorem legacy_written {path method : String} (settings : Settings)
    (located : operation.endpoint = .ok (path, method)) :
    ∃ document, operation.legacy (.ok settings) = .ok document := by
  unfold legacy nickname
  simp only [located]
  exact ⟨_, rfl⟩

theorem v2_eq {path method : String} (located : operation.endpoint = .ok (path, method)) :
    operation.v2 load = (operation.responses load).map fun responses =>
      .object [(Text.lowered method, .object (operation.v2Fields responses))] := by
  rw [v2, located]
  cases operation.responses load <;> rfl

theorem v2_eq_ok {path method : String} {document : Json}
    (located : operation.endpoint = .ok (path, method))
    (written : operation.v2 load = .ok document) :
    ∃ responses, operation.responses load = .ok responses ∧
      document = .object [(Text.lowered method, .object (operation.v2Fields responses))] := by
  rw [v2_eq located] at written
  cases gathered : operation.responses load with
  | ok responses =>
    rw [gathered] at written
    exact ⟨responses, rfl, (Except.ok.inj written).symm⟩
  | error failure =>
    rw [gathered] at written
    cases written

theorem v2_failure {path method : String} (located : operation.endpoint = .ok (path, method))
    (failed : operation.v2 (.ok settings) = .error failure) :
    ∃ error ∈ operation.errorMessages, ∃ raw ∈ error.responseModel,
      TypeRef.Unnamed raw ∧ failure = .ofCause (.emptyType raw) none := by
  rw [v2_eq located] at failed
  cases gathered : operation.responses (.ok settings) with
  | ok responses =>
    rw [gathered] at failed
    cases failed
  | error own =>
    rw [gathered] at failed
    obtain rfl := Except.error.inj failed
    obtain ⟨error, member, refused⟩ := addResponses_failure gathered
    exact ⟨error, member, ErrorMessage.v2_failure refused⟩

theorem v2_written_iff {path method : String} (located : operation.endpoint = .ok (path, method)) :
    (∃ document, operation.v2 (.ok settings) = .ok document) ↔
      ∀ error ∈ operation.errorMessages, ∀ raw ∈ error.responseModel, ¬ TypeRef.Unnamed raw := by
  constructor
  · rintro ⟨document, written⟩ error member raw model unnamed
    obtain ⟨responses, gathered, _⟩ := v2_eq_ok located written
    obtain ⟨response, succeeded⟩ := addResponses_written gathered error member
    rw [ErrorMessage.v2_of_unnamed model unnamed] at succeeded
    cases succeeded
  · intro named
    cases written : operation.v2 (.ok settings) with
    | ok document => exact ⟨document, rfl⟩
    | error failure =>
      obtain ⟨error, member, raw, model, unnamed, _⟩ := v2_failure located written
      exact absurd unnamed (named error member raw model)

/-! ### Operations that were built -/

theorem Described.endpoint (said : Described settings tags operation)
    (located : ∃ tag ∈ tags, tag.tagName = "path") :
    ∃ path method, operation.endpoint = .ok (path, method) := by
  obtain ⟨tag, member, named⟩ := located
  have inPaths : tag ∈ Tag.named tags "path" :=
    List.mem_filter.mpr ⟨member, beq_iff_eq.mpr named⟩
  obtain ⟨last, isLast⟩ : ∃ last, (Tag.named tags "path").getLast? = some last :=
    ⟨_, List.getLast?_eq_some_getLast (List.ne_nil_of_mem inPaths)⟩
  have path := said.path
  have httpMethod := said.httpMethod
  rw [isLast, Option.map_some] at path httpMethod
  obtain ⟨method, given, _⟩ := Option.map_eq_some_iff.mp httpMethod
  exact ⟨last.text, method, by rw [Operation.endpoint, path, given]⟩

theorem Described.mem_errorMessages (said : Described settings tags operation)
    {error : ErrorMessage} :
    error ∈ operation.errorMessages ↔
      ∃ tag ∈ tags, tag.tagName = "error_message" ∧ ErrorMessage.ofTag tag = .ok error := by
  have listed : error ∈ operation.errorMessages ↔
      Except.ok error ∈ (Tag.named tags "error_message").map ErrorMessage.ofTag := by
    rw [said.errors]
    simp
  rw [listed, List.mem_map]
  simp [Tag.named, and_assoc]

theorem Described.exists_errorMessage (said : Described settings tags operation) {tag : Tag}
    (member : tag ∈ tags) (named : tag.tagName = "error_message") :
    ∃ error ∈ operation.errorMessages, ErrorMessage.ofTag tag = .ok error := by
  have listed : ErrorMessage.ofTag tag ∈ operation.errorMessages.map .ok := by
    rw [← said.errors]
    exact List.mem_map_of_mem (List.mem_filter.mpr ⟨member, beq_iff_eq.mpr named⟩)
  obtain ⟨error, isError, read⟩ := List.mem_map.mp listed
  exact ⟨error, isError, read.symm⟩

/-- A built operation with a path is always written in the legacy dialect. It is written in the v2
dialect exactly if the first type of each `@error_message` tag, where there is one, has a name; the
failure is then about such a type and says neither the tag nor the declaration. -/
theorem ofDeclaration_written (settings : Settings) (declaration : Declaration) (api : ApiContext)
    (operation : Operation) (located : ∃ tag ∈ declaration.tags, tag.tagName = "path")
    (built : (ofDeclaration (.ok settings) declaration api).result = .ok operation) :
    (∃ document, operation.legacy (.ok settings) = .ok document) ∧
    ((∃ document, operation.v2 (.ok settings) = .ok document) ↔
      ∀ tag ∈ declaration.tags, tag.tagName = "error_message" →
        ∀ raw ∈ tag.types.head?, ¬ TypeRef.Unnamed raw) ∧
    ∀ failure, operation.v2 (.ok settings) = .error failure →
      ∃ tag ∈ declaration.tags, tag.tagName = "error_message" ∧
        ∃ raw ∈ tag.types.head?, TypeRef.Unnamed raw ∧
          failure = .tag ⟨.malformedTag, (TagError.Cause.emptyType raw).message, none, none⟩ := by
  obtain ⟨gathered, format, run, _, rfl⟩ := ofDeclaration_gathers built
  have said : Described settings declaration.tags
      (gathered.sortParameters.addParameters [format]) := run.described.withParameters
  generalize gathered.sortParameters.addParameters [format] = operation at said
  obtain ⟨path, method, endpoint⟩ := said.endpoint located
  refine ⟨legacy_written settings endpoint, ?_, ?_⟩
  · rw [v2_written_iff endpoint]
    constructor
    · intro named tag member isError raw given
      obtain ⟨error, listed, read⟩ := said.exists_errorMessage member isError
      rw [← ErrorMessage.responseModel_ofTag read] at given
      exact named error listed raw given
    · intro named error listed raw given
      obtain ⟨tag, member, isError, read⟩ := said.mem_errorMessages.mp listed
      rw [ErrorMessage.responseModel_ofTag read] at given
      exact named tag member isError raw given
  · intro failure failed
    obtain ⟨error, listed, raw, model, unnamed, rfl⟩ := v2_failure endpoint failed
    obtain ⟨tag, member, isError, read⟩ := said.mem_errorMessages.mp listed
    rw [ErrorMessage.responseModel_ofTag read] at model
    exact ⟨tag, member, isError, raw, model, unnamed, rfl⟩

/-- A method with an error response of the given type. -/
def failingWith (raw : String) : Declaration where
  type := "method"
  tags := [⟨"path", "/widgets", none, ["GET"]⟩, ⟨"error_message", "Invalid", some "422", [raw]⟩]
  path := some "Widgets#update"

theorem ofDeclaration_written_named :
    ∃ operation,
      (ofDeclaration (.ok Settings.standard) (failingWith "Array<Error>") ⟨none, none⟩).result =
        .ok operation ∧
      (∃ document, operation.legacy (.ok Settings.standard) = .ok document) ∧
      ∃ document, operation.v2 (.ok Settings.standard) = .ok document := by
  have located : ∃ tag ∈ (failingWith "Array<Error>").tags, tag.tagName = "path" :=
    ⟨_, .head _, rfl⟩
  obtain ⟨operation, built⟩ : ∃ operation,
      (ofDeclaration (.ok Settings.standard) (failingWith "Array<Error>") ⟨none, none⟩).result =
        .ok operation := ⟨_, rfl⟩
  have written := ofDeclaration_written _ _ _ _ located built
  refine ⟨operation, built, written.1, written.2.1.mpr ?_⟩
  intro tag member isError raw given
  simp only [failingWith, List.mem_cons, List.not_mem_nil, or_false] at member
  rcases member with rfl | rfl
  · exact absurd isError (by decide)
  · obtain rfl := Option.some.inj given
    decide

/-- The type of an error response is not looked at before the operation is written. -/
theorem v2_refuses_unnamed_response :
    (∃ tag ∈ (failingWith "<>").tags, tag.tagName = "path") ∧
    ∃ operation,
      (ofDeclaration (.ok Settings.standard) (failingWith "<>") ⟨none, none⟩).result =
        .ok operation ∧
      operation.v2 (.ok Settings.standard) =
        .error (.tag ⟨.malformedTag, "empty type annotation '<>'", none, none⟩) := by
  have message : (TagError.Cause.emptyType "<>").message = "empty type annotation '<>'" := by
    decide +kernel
  refine ⟨⟨_, .head _, rfl⟩, _, rfl, ?_⟩
  rw [← message]
  rfl

end Operation

end DocTags
