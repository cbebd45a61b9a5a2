/-
# What an HTTP response means

A status outside 200 to 299 is a failure, with the body as payload if it is announced as JSON and is
JSON. A success without content type is null, plain text is a string, a blank body is null, and
anything else has to be JSON.
-/

import Refetch.FetchError
import Refetch.Json.Parser
import Refetch.Text.Blank

namespace Refetch

/-- A response as it is received. -/
structure Response where
  status : UInt16
  contentType : Option String
  body : String
  deriving DecidableEq, Repr

namespace Response

def isSuccess (r : Response) : Bool := 200 ≤ r.status && r.status < 300

/-- Does the content type begin with the given text. -/
def hasType (r : Response) (type : String) : Bool := 
  r.contentType.any fun given => type.toList.isPrefixOf given.toList

/-- The JSON payload of a failure. -/
def payload (r : Response) : Option Json :=
  if r.hasType "application/json" then Json.parse? r.body else none

/-- What went wrong when the body of a success is not JSON. Only that it is not is told. -/
def notJson (url : String) : FetchError := .decode url "not JSON"

/-- The value that a response to a request to a URL stands for. -/
def value (url : String) (r : Response) : FetchResult Json :=
  if ¬ r.isSuccess then .error (.http { status := r.status, payload := r.payload })
  else if r.contentType.isNone then .ok .null
  else if r.hasType "text/plain" then .ok (.str r.body)
  else if Text.allBlank r.body then .ok .null
  else match Json.parse? r.body with
    | some v => .ok v
    | none => .error (notJson url)

end Response

end Refetch
