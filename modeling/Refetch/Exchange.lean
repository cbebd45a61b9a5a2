/-
# One exchange with a server over HTTP

An exchange is the request as the server sees it, and the value that its reply stands for.
-/

import Refetch.Endpoint
import Refetch.Json.Printer
import Refetch.Response
import Refetch.Text.Utf8
import Refetch.Url

namespace Refetch

/-- One part of a form as a server sees it. -/
structure SentPart where
  name : String
  fileName : Option String
  bytes : List UInt8
  deriving DecidableEq, Repr

/-- What a server sees of the body of a request. -/
inductive SentBody where
  | text (content : String)
  | form (parts : List SentPart)
  deriving DecidableEq, Repr

/-- A request as a server sees it. -/
structure SentRequest where
  method : Method
  target : String
  accept : String
  cacheControl : Option String
  apiKey : Option String
  /-- The kind of the body, without parameters. -/
  contentType : Option String
  body : Option SentBody
  deriving DecidableEq, Repr

/-- What a server replies. -/
structure Reply where
  status : Nat
  contentType : Option String
  body : List UInt8
  deriving DecidableEq, Repr

/-- A part of a form as a server sees it. -/
def FormPart.sent : FormPart → SentPart
  | .text name value => { name, fileName := none, bytes := Text.utf8Bytes value }
  | .file name fileName bytes => { name, fileName := some fileName, bytes }

namespace Body

def contentType : Body → String
  | .json _ => "application/json"
  | .multipart _ => "multipart/form-data"

/-- A body as a server sees it. -/
def sent : Body → SentBody
  | .json v => .text v.compact
  | .multipart parts => .form (parts.map FormPart.sent)

end Body

/-- A request as the server at an endpoint sees it; `none` if the URL names no server. -/
def Endpoint.send? (e : Endpoint) (r : Request) : Option SentRequest :=
  (Url.target? (e.urlFor r.url)).map fun target => {
    method := r.method, target, accept := "application/json"
    cacheControl := r.cache.cacheControl, apiKey := e.apiKey
    contentType := r.body.map Body.contentType, body := r.body.map Body.sent }

namespace Reply

/-- May a reply with that status have a body. -/
def hasBody (status : Nat) : Bool := 200 ≤ status && status ≠ 204 && status ≠ 304

/-- The kind of the body, if it is given in visible ASCII. -/
def readType (r : Reply) : Option String :=
  let blank (c : Char) := c = ' ' || c = '\t'
  let visible (c : Char) := c = '\t' || (0x20 ≤ c.toNat && c.toNat < 0x7F)
  r.contentType.bind fun given =>
    let kept := ((given.toList.dropWhile blank).reverse.dropWhile blank).reverse
    if kept.all visible then some (String.ofList kept) else none

/-- The response that a reply makes up. There is none if the status is no status of HTTP, or one
that only announces a reply to come. -/
def response? (r : Reply) : Option Response :=
  if r.status = 101 ∨ (200 ≤ r.status ∧ r.status < 1000) then
    some { status := .ofNat r.status, contentType := r.readType,
           body := if hasBody r.status then Text.ofBytesLossy r.body else "" }
  else none

/-- What is told when a server does not answer. -/
def noAnswer : FetchError := .transport "no answer"

/-- The value that the outcome of a request to a URL stands for; no reply is a failure. -/
def value (url : String) (reply : Option Reply) : FetchResult Json :=
  match reply.bind response? with
  | some response => response.value url
  | none => .error noAnswer

end Reply

end Refetch
