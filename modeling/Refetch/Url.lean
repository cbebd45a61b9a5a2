/-
# What a URL asks a server for

The target of a URL over HTTP is all that follows the name and the port of the server: a path, in
which a backslash counts as a slash and segments of dots are resolved, and a query. Tabs and ends of
lines are left out, characters that may not stand in a URL are percent-encoded, and a fragment is
not sent.
-/

import Refetch.Text.Percent

namespace Refetch.Url

/-- Is the character a control character, a blank, or otherwise kept out of every URL. -/
def isUnsafe (c : Char) : Bool :=
  c.toNat ≤ 0x20 || 0x7F ≤ c.toNat || c = '"' || c = '<' || c = '>'

def encodedInPath (c : Char) : Bool :=
  isUnsafe c || c = '#' || c = '?' || c = '\x60' || c = '\x7b' || c = '\x7d'

def encodedInQuery (c : Char) : Bool := isUnsafe c || c = '#' || c = '\''

/-- A character as it stands in a URL, byte by byte if it is percent-encoded. -/
def escape (encoded : Char → Bool) (c : Char) : List Char :=
  if encoded c then (Text.utf8Bytes (String.singleton c)).flatMap Text.percentByte else [c]

def segments : List Char → List (List Char)
  | [] => [[]]
  | c :: rest => match segments rest with
    | [] => [[c]]
    | segment :: more =>
      if c = '/' ∨ c = '\\' then [] :: segment :: more else (c :: segment) :: more

/-- A segment in lower case and with its dots decoded, if it might be one of dots. -/
def dots : List Char → List Char
  | '%' :: '2' :: e :: rest =>
    if e = 'e' ∨ e = 'E' then '.' :: dots rest else '%' :: '2' :: e :: rest
  | '.' :: rest => '.' :: dots rest
  | segment => segment

/-- Resolves segments of one and two dots, the segments before them held in reverse. -/
def resolve : List (List Char) → List (List Char) → List (List Char)
  | done, [] => done.reverse
  | done, segment :: rest =>
    let isLast := rest.isEmpty
    if dots segment = ['.', '.'] then resolve (if isLast then [] :: done.tail else done.tail) rest
    else if dots segment = ['.'] then resolve (if isLast then [] :: done else done) rest
    else resolve (segment :: done) rest

/-- The path of a target from what was written, which is empty or begins with a slash. -/
def path (written : List Char) : List Char :=
  let resolved := resolve [] (segments (written.drop 1))
  resolved.flatMap fun segment => '/' :: segment.flatMap (escape encodedInPath)

/-- A text without tabs and ends of lines, and without controls and spaces at its end. -/
def clean (text : List Char) : List Char :=
  let kept := text.filter fun c => c ≠ '\t' && c ≠ '\n' && c ≠ '\r'
  (kept.reverse.dropWhile (·.toNat ≤ 0x20)).reverse

/-- What follows the scheme of a URL over HTTP. -/
def afterScheme? : List Char → Option (List Char)
  | 'h' :: 't' :: 't' :: 'p' :: ':' :: '/' :: '/' :: rest => some rest
  | 'h' :: 't' :: 't' :: 'p' :: 's' :: ':' :: '/' :: '/' :: rest => some rest
  | _ => none

/-- Does the character end the name of a server. -/
def endsServer (c : Char) : Bool := c = '/' || c = '\\' || c = '?' || c = '#'

/-- Does the text name a server: a name and perhaps a port. -/
def namesServer (server : List Char) : Bool :=
  let name := server.takeWhile (· ≠ ':')
  let port := (server.dropWhile (· ≠ ':')).drop 1
  !name.isEmpty && port.all Char.isDigit
    && Nat.ofDigitChars 10 port 0 < UInt16.size

/-- What a URL over HTTP asks its server for; `none` if it names no server. -/
def target? (url : String) : Option String := do
  let rest := clean (← afterScheme? url.toList)
  if !namesServer (rest.takeWhile (!endsServer ·)) then none
  let sent := (rest.dropWhile (!endsServer ·)).takeWhile (· ≠ '#')
  let query := match sent.dropWhile (· ≠ '?') with
    | [] => []
    | mark :: query => mark :: query.flatMap (escape encodedInQuery)
  return String.ofList (path (sent.takeWhile (· ≠ '?')) ++ query)

end Refetch.Url
