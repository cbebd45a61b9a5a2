/-
# Where requests go

An endpoint is the base of all URLs, and what every request carries.
-/

import Refetch.ClientConfig
import Refetch.Describe

namespace Refetch

/-- Where requests go. -/
structure Endpoint where
  /-- What the URL of every request begins with. -/
  baseUrl : String
  /-- What the server knows the client by. -/
  apiKey : Option String := none
  deriving DecidableEq, Repr

namespace Endpoint

/-- The text without the slashes at its end. -/
def trimSlashes (s : String) : String :=
  String.ofList ((s.toList.reverse.dropWhile (· == '/')).reverse)

/-- Can a text be the value of a header: it has no control characters but tabs. -/
def isHeaderValue (s : String) : Bool :=
  s.toList.all fun c => c = '\t' || (0x20 ≤ c.toNat && c.toNat ≠ 0x7F)

/-- The wording of the refusal of a key that cannot be the value of a header. -/
def badKeyMessage : String := "Failed to build HTTP client: failed to parse header value"

/-- The endpoint that settings name. There is none if the key cannot be sent. -/
def ofConfig? (c : ClientConfig) : Option Endpoint :=
  if c.apiKey.all isHeaderValue then
    some { baseUrl := trimSlashes c.apiBaseUrl, apiKey := c.apiKey }
  else none

def urlFor (e : Endpoint) (path : String) : String := e.baseUrl ++ path

/-- The endpoint in words. The key is not shown. -/
def text (e : Endpoint) : String :=
  Describe.record "HttpTransport" [("base_url", Text.quoted e.baseUrl)]

end Endpoint

end Refetch
