/-
# What every response means

Whether a response is a failure is decided by its status alone, and what a success stands for by its
content type and then by its body. These conditions overlap: a text may be blank, a blank body has
some type or none, and JSON may be announced or not. `Means` gives each class of responses with all
of its conditions, so that no two classes share a response, and a response has the one value that
its class says, whatever the status, the type and the body are. What counts as JSON is up to the
parser, of which nothing is used.

A failure carries the document that its body is announced as and is, and what can be read off the
failure is read off that document.
-/

import Refetch.Response

namespace Refetch

namespace Response

def Succeeds (r : Response) : Prop := 200 ≤ r.status.toNat ∧ r.status.toNat ≤ 299

/-- The content type begins with a text, whatever parameters follow. -/
def TypeBegins (r : Response) (start : String) : Prop :=
  ∃ rest, r.contentType = some (start ++ rest)

/-- The body is announced as JSON, and all of it is a document. -/
def Holds (r : Response) (v : Json) : Prop :=
  r.TypeBegins "application/json" ∧ Json.parse? r.body = some v

def Blank (r : Response) : Prop := ∀ c ∈ r.body.toList, Text.isBlank c = true

/-- A success of which the body matters: it has a type that is not plain text. -/
structure Formatted (r : Response) : Prop where
  succeeds : r.Succeeds
  typed : r.contentType ≠ none
  noText : ¬ r.TypeBegins "text/plain"

/-- The value that a response to a request to a URL stands for, by the class of the response. -/
inductive Means (url : String) (r : Response) : FetchResult Json → Prop
  | failure {e : HttpError} (fails : ¬ r.Succeeds) (status : e.status = r.status)
      (payload : ∀ v, e.payload = some v ↔ r.Holds v) : Means url r (.error (.http e))
  | untyped (succeeds : r.Succeeds) (noType : r.contentType = none) : Means url r (.ok .null)
  | text (succeeds : r.Succeeds) (plain : r.TypeBegins "text/plain") :
      Means url r (.ok (.str r.body))
  | blank (formatted : r.Formatted) (blank : r.Blank) : Means url r (.ok .null)
  | document {v : Json} (formatted : r.Formatted) (filled : ¬ r.Blank)
      (parsed : Json.parse? r.body = some v) : Means url r (.ok v)
  | malformed {reason : String} (formatted : r.Formatted) (filled : ¬ r.Blank)
      (refused : Json.parse? r.body = none) (told : notJson url = .decode url reason) :
      Means url r (.error (.decode url reason))

variable {url : String} {r : Response}

theorem isSuccess_iff : r.isSuccess = true ↔ r.Succeeds := by
  have bounds : (200 ≤ r.status ∧ r.status < 300) ↔ r.Succeeds := by
    rw [UInt16.le_iff_toNat_le, UInt16.lt_iff_toNat_lt, Succeeds]
    exact and_congr_right fun _ => Nat.lt_succ_iff
  simpa [isSuccess] using bounds

theorem hasType_iff {start : String} : r.hasType start = true ↔ r.TypeBegins start := by
  unfold hasType TypeBegins
  cases r.contentType with
  | none => simp
  | some given =>
      simp only [Option.any_some, List.isPrefixOf_iff_prefix, Option.some.injEq]
      constructor
      · rintro ⟨rest, whole⟩
        exact ⟨String.ofList rest, by rw [← String.toList_inj]; simp [whole]⟩
      · rintro ⟨rest, rfl⟩
        exact ⟨rest.toList, by simp⟩

theorem allBlank_iff : Text.allBlank r.body = true ↔ r.Blank := List.all_eq_true

theorem payload_eq_some_iff {v : Json} : r.payload = some v ↔ r.Holds v := by
  rw [payload, Holds, ← hasType_iff]
  split <;> simp [*]

/-- A type that begins with something is a type. -/
theorem TypeBegins.typed {start : String} (h : r.TypeBegins start) : r.contentType ≠ none := by
  obtain ⟨rest, type⟩ := h
  simp [type]

/-- Every response is in some class. -/
theorem exists_means (url : String) (r : Response) : ∃ x, Means url r x := by
  by_cases succeeds : r.Succeeds
  · by_cases noType : r.contentType = none
    · exact ⟨_, .untyped succeeds noType⟩
    · by_cases plain : r.TypeBegins "text/plain"
      · exact ⟨_, .text succeeds plain⟩
      · have formatted : r.Formatted := ⟨succeeds, noType, plain⟩
        by_cases blank : r.Blank
        · exact ⟨_, .blank formatted blank⟩
        · cases parsed : Json.parse? r.body with
          | some v => exact ⟨_, .document formatted blank parsed⟩
          | none => exact ⟨_, .malformed formatted blank parsed rfl⟩
  · have payload (v : Json) : r.payload = some v ↔ r.Holds v := payload_eq_some_iff
    exact ⟨.error (.http { status := r.status, payload := r.payload }),
      .failure succeeds rfl payload⟩

/-- The value of a response is that of each class that it is in. -/
theorem Means.value_eq {x : FetchResult Json} (h : Means url r x) : r.value url = x := by
  cases h with
  | @failure e fails status payload =>
      have same : r.payload = e.payload :=
        Option.ext fun v => payload_eq_some_iff.trans (payload v).symm
      simp [value, isSuccess_iff, fails, same, ← status]
  | untyped succeeds noType => simp [value, isSuccess_iff, succeeds, noType]
  | text succeeds plain =>
      simp [value, isSuccess_iff, succeeds, plain.typed, hasType_iff, plain]
  | blank formatted blank =>
      simp [value, isSuccess_iff, formatted.succeeds, formatted.typed, hasType_iff,
        formatted.noText, allBlank_iff, blank]
  | document formatted filled parsed =>
      simp [value, isSuccess_iff, formatted.succeeds, formatted.typed, hasType_iff,
        formatted.noText, allBlank_iff, filled, parsed]
  | malformed formatted filled refused told =>
      simp [value, isSuccess_iff, formatted.succeeds, formatted.typed, hasType_iff,
        formatted.noText, allBlank_iff, filled, refused, told]

theorem value_eq_iff {x : FetchResult Json} : r.value url = x ↔ Means url r x := by
  constructor
  · rintro rfl
    obtain ⟨y, means⟩ := exists_means url r
    rwa [means.value_eq]
  · exact Means.value_eq

theorem Means.failure_inv {e : HttpError} (h : Means url r (.error (.http e))) :
    ¬ r.Succeeds ∧ e.status = r.status ∧ ∀ v, e.payload = some v ↔ r.Holds v := by
  cases h with
  | failure fails status payload => exact ⟨fails, status, payload⟩

theorem exists_http_iff : (∃ e, r.value url = .error (.http e)) ↔ ¬ r.Succeeds := by
  constructor
  · rintro ⟨e, failed⟩
    exact (value_eq_iff.mp failed).failure_inv.1
  · intro fails
    obtain ⟨x, means⟩ := exists_means url r
    cases means with
    | failure fails status payload => exact ⟨_, (Means.failure fails status payload).value_eq⟩
    | untyped succeeds | text succeeds => exact absurd succeeds fails
    | blank formatted | document formatted | malformed formatted =>
        exact absurd formatted.succeeds fails

end Response

namespace HttpError

theorem code_eq_some_iff {e : HttpError} {code : String} :
    e.code = some code ↔ ∃ v, e.payload = some v ∧ v.get? "code" = some (.str code) := by
  have text (v : Json) : v.asString? = some code ↔ v = .str code := by
    cases v <;> simp [Json.asString?]
  simp [HttpError.code, Option.bind_eq_some_iff, text]

theorem kind_eq_badRequest_iff {e : HttpError} : e.kind = .badRequest ↔ e.status = 400 := by
  unfold HttpError.kind
  by_cases bad : e.status = 400
  · simp [bad]
  · rw [if_neg bad]
    split
    · simp [bad]
    · split <;> simp [bad]

theorem isValidationError_iff {e : HttpError} :
    e.isValidationError = true ↔ e.status = 400 ∧ e.code = some validationFailed := by
  rw [isValidationError, Bool.and_eq_true, decide_eq_true_iff, decide_eq_true_iff,
    kind_eq_badRequest_iff]

/-- The fields are the details of the payload, each with its code. -/
theorem mem_fields_iff {e : HttpError} {name : String} {code : Option String} :
    (name, code) ∈ e.fields ↔ ∃ v members detail, e.payload = some v ∧
      v.get? "detail" = some (.obj members) ∧ (name, detail) ∈ members ∧
        (detail.get? "code").bind Json.asString? = code := by
  have details (members : List (String × Json)) :
      (e.payload.bind (·.get? "detail") = some (.obj members)) ↔
        ∃ v, e.payload = some v ∧ v.get? "detail" = some (.obj members) :=
    Option.bind_eq_some_iff
  unfold fields
  split
  next members found =>
    constructor
    · intro mem
      obtain ⟨⟨_, detail⟩, listed, same⟩ := List.mem_map.mp mem
      obtain ⟨rfl, rfl⟩ := Prod.mk.inj same
      obtain ⟨v, payload, named⟩ := (details members).mp found
      exact ⟨v, members, detail, payload, named, listed, rfl⟩
    · rintro ⟨v, others, detail, payload, named, listed, rfl⟩
      have same := found.symm.trans ((details others).mpr ⟨v, payload, named⟩)
      obtain rfl : members = others := Json.obj.inj (Option.some.inj same)
      exact List.mem_map.mpr ⟨(name, detail), listed, rfl⟩
  next none =>
    constructor
    · nofun
    · rintro ⟨v, members, detail, payload, named, -, -⟩
      exact absurd ((details members).mpr ⟨v, payload, named⟩) (none members)

end HttpError

namespace Response

/-- The fields of a form that a document tells about, each with its error code if it has one. -/
def TellsField (v : Json) (name : String) (code : Option String) : Prop :=
  ∃ members detail, v.get? "detail" = some (.obj members) ∧ (name, detail) ∈ members ∧
    (detail.get? "code").bind Json.asString? = code

/-- The value of a response is the one that it means, and it means one value only: a failure if and
only if its status is none of a success, so that no failure becomes a value and no success a
failure. What is read off a failure, that the form is invalid and which fields are, stands in the
document that it holds. -/
theorem response_means_one_value (url : String) (r : Response) :
    (∀ x, r.value url = x ↔ Means url r x) ∧
      ((∃ e, r.value url = .error (.http e)) ↔ ¬ r.Succeeds) ∧
      ∀ e, r.value url = .error (.http e) →
        (e.isValidationError = true ↔ r.status = 400 ∧
          ∃ v, r.Holds v ∧ v.get? "code" = some (.str "validation_failed")) ∧
        ∀ name code, (name, code) ∈ e.fields ↔ ∃ v, r.Holds v ∧ TellsField v name code := by
  refine ⟨fun _ => value_eq_iff, exists_http_iff, ?_⟩
  intro e failed
  obtain ⟨-, status, payload⟩ := (value_eq_iff.mp failed).failure_inv
  constructor
  · simp only [HttpError.isValidationError_iff, HttpError.code_eq_some_iff, status, payload,
      HttpError.validationFailed]
  · intro name code
    simp only [HttpError.mem_fields_iff, payload, TellsField, exists_and_left]

/-- A form is refused with a document whose type has a parameter. A field whose detail is no object
has no code. -/
theorem refused_form_tells_fields :
    let details : List (String × Json) :=
      [("name", .obj [("code", .str "required")]), ("url", .bool false)]
    let document : Json := .obj [("code", .str "validation_failed"), ("detail", .obj details)]
    let r : Response :=
      { status := 400, contentType := some "application/json; charset=utf-8"
        body := document.compact }
    ¬ r.Succeeds ∧ ∃ e, r.value "/apps" = .error (.http e) ∧ e.isValidationError = true ∧
      ("name", some "required") ∈ e.fields ∧ ("url", none) ∈ e.fields := by
  intro details document r
  have fails : ¬ r.Succeeds := fun succeeds => absurd succeeds.2 (by decide)
  have holds : r.Holds document := ⟨⟨"; charset=utf-8", rfl⟩, by decide +kernel⟩
  obtain ⟨-, failure, law⟩ := response_means_one_value "/apps" r
  obtain ⟨e, failed⟩ := failure.mpr fails
  obtain ⟨invalid, fields⟩ := law e failed
  have name : TellsField document "name" (some "required") :=
    ⟨details, .obj [("code", .str "required")], rfl, .head _, rfl⟩
  have url : TellsField document "url" none := ⟨details, .bool false, rfl, .tail _ (.head _), rfl⟩
  exact ⟨fails, e, failed, invalid.mpr ⟨rfl, document, holds, rfl⟩,
    (fields _ _).mpr ⟨document, holds, name⟩, (fields _ _).mpr ⟨document, holds, url⟩⟩

end Response

end Refetch
