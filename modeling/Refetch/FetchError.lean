/-
# Failures of requests, parameters and settings, and their wording

`HttpError` is an answer with a status that is not a success; `FetchError` is every way in which a
fetch can fail, `Failure` any failure of the cache.
-/

import Refetch.Params

namespace Refetch

/-- Well-known classes of HTTP failures. -/
inductive HttpErrorKind where
  | badRequest
  | unauthorized
  | unexpected
  | other
  deriving DecidableEq, Repr

/-- An answer whose status is not a success, with its JSON payload if it had one. -/
structure HttpError where
  status : UInt16
  payload : Option Json := none
  deriving DecidableEq, Repr, Inhabited

namespace HttpError

/-- The class of the failure. -/
def kind (e : HttpError) : HttpErrorKind :=
  if e.status = 400 then .badRequest
  else if e.status = 401 then .unauthorized
  else if e.status = 500 then .unexpected
  else .other

/-- The application's error code, the text of the payload's member `code`. -/
def code (e : HttpError) : Option String :=
  e.payload.bind fun payload => (payload.get? "code").bind Json.asString?

/-- The code of a failed form validation. -/
def validationFailed : String := "validation_failed"

/-- Is the failure a failed form validation. -/
def isValidationError (e : HttpError) : Bool :=
  e.kind = .badRequest && e.code = some validationFailed

/-- The error code of each field of a form; a field whose detail has no code has none. -/
def fields (e : HttpError) : List (String × Option String) :=
  match e.payload.bind (·.get? "detail") with
  | some (.obj members) =>
    members.map fun (name, detail) => (name, (detail.get? "code").bind Json.asString?)
  | _ => []

def message (e : HttpError) : String :=
  match e.code with
  | some code => s!"{code} (HTTP {e.status})"
  | none => s!"HTTP Error {e.status}"

end HttpError

/-- Why a fetch failed. -/
inductive FetchError where
  | http (error : HttpError)
  | transport (reason : String)
  | decode (key reason : String)
  | encode (url reason : String)
  /-- The leader of the fetch gave up before it settled. -/
  | cancelled (key : String)
  deriving DecidableEq, Repr, Inhabited

/-- What a fetch ends with. -/
abbrev FetchResult (α : Type) := Except FetchError α

namespace FetchError

def message : FetchError → String
  | .http e => e.message
  | .transport reason => s!"Transport error: {reason}"
  | .decode key reason => s!"Failed to decode response for {key}: {reason}"
  | .encode url reason => s!"Failed to encode request body for {url}: {reason}"
  | .cancelled key => s!"Fetch for {key} was cancelled before it settled"

/-- The HTTP failure behind a fetch failure. -/
def http? : FetchError → Option HttpError
  | .http e => some e
  | _ => none

/-- The status, when the failure came from the server. -/
def status? (e : FetchError) : Option UInt16 := e.http?.map (·.status)

end FetchError

/-- A setting of the cache that cannot be used. -/
structure SettingError where
  field : String
  value : String
  reason : String
  deriving DecidableEq, Repr

def SettingError.message (e : SettingError) : String :=
  s!"Invalid value for {e.field}: {e.value} - {e.reason}"

/-- Any failure of the cache. -/
inductive Failure where
  | fetch (error : FetchError)
  | params (error : ParamsError)
  | setting (error : SettingError)
  deriving DecidableEq, Repr

/-- The wording of a failure, which names its kind. -/
def Failure.message : Failure → String
  | .fetch e => s!"Fetch error: {e.message}"
  | .params e => s!"Params error: {e.message}"
  | .setting e => s!"Config error: {e.message}"

end Refetch
