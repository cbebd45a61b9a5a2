/-
# Cache keys

A computed key is a base key, usually the path of a resource, followed by the canonical query string
of the parameters if there are any. The base key of any key is the part before its first question
mark.
-/

import Refetch.Params

namespace Refetch

/-- The base key of a key or URL: everything before the first question mark. -/
def baseKeyOf (key : String) : String := String.ofList (key.toList.takeWhile (· != '?'))

/-- Does a key carry a query string of its own. -/
def hasInlineQuery (key : String) : Bool := key.toList.contains '?'

/-- The key of an answer: the parameters are appended after a question mark, or after an ampersand
if the key carries a query string already. -/
def computeKey (key : String) (params : Option Params) : String :=
  match params with
  | none => key
  | some p =>
    if p.isEmpty then key
    else key ++ (if hasInlineQuery key then "&" else "?") ++ p.encode

end Refetch
