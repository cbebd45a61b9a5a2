/-
# Reading TOML documents, version 1.0

A document is a sequence of lines: headings, pairs of a name and a value, and lines with nothing but
a comment. Only the values of arrays and the text between triple quotes go over the end of a line.
Values nest less than 80 levels deep, and so do dotted names. The reader only says whether a text is
TOML, not why it is not.
-/

import Refetch.Toml.Number

namespace Refetch.Toml

/-- How deep values may nest and how many names a dotted name may have, plus one. -/
def depthLimit : Nat := 80

namespace Reader

/-- May a character stand in a name without quotes. -/
def isBare (c : Char) : Bool := c.isAlphanum || c = '_' || c = '-'

/-- A single name. -/
def name? : List Char → Option (String × List Char)
  | '"' :: rest => basicTail? (rest.length + 1) [] rest
  | '\'' :: rest => literalTail? [] rest
  | text =>
    let bare := text.takeWhile isBare
    if bare.isEmpty then none else some (String.ofList bare, text.dropWhile isBare)

/-- A dotted name after the names in front of it, in reverse. -/
def pathTail? : Nat → List String → List Char → Option (Path × List Char)
  | 0, _, _ => none
  | fuel + 1, parents, text => do
    let (name, rest) ← name? (skipBlank text)
    match skipBlank rest with
    | '.' :: rest => pathTail? fuel (name :: parents) rest
    | rest => return (⟨parents.reverse, name⟩, rest)

/-- A dotted name with blanks around it. -/
def path? (text : List Char) : Option (Path × List Char) := pathTail? (depthLimit - 1) [] text

/-- A value that is not made of others. -/
def scalar? (text : List Char) : Option (Toml × List Char) :=
  match text with
  | 't' :: 'r' :: 'u' :: 'e' :: rest => some (.boolean true, rest)
  | 'f' :: 'a' :: 'l' :: 's' :: 'e' :: rest => some (.boolean false, rest)
  | _ => ((text? text).map fun (s, rest) => (.str s, rest))
    <|> moment? text <|> decimal? text <|> special? text <|> integer? text

/-- The items of an array through its closing bracket, a comma after each but perhaps the last. -/
def items? (value? : List Char → Option (Toml × List Char)) :
    Nat → List Char → Option (List Toml × List Char)
  | 0, _ => none
  | fuel + 1, text => match skipLines false text with
    | ']' :: rest => some ([], rest)
    | text => do
      let (v, rest) ← value? text
      match skipLines false rest with
      | ',' :: rest =>
        let (vs, rest) ← items? value? fuel rest
        return (v :: vs, rest)
      | ']' :: rest => return ([v], rest)
      | _ => none

/-- The name, the equals sign and the value of a pair. -/
def pair? (value? : List Char → Option (Toml × List Char)) (text : List Char) :
    Option ((Path × Toml) × List Char) := do
  let (path, rest) ← path? text
  let rest ← expect? '=' rest
  let (v, rest) ← value? (skipBlank rest)
  return ((path, v), rest)

/-- The pairs of a table between braces through its closing brace, a comma between them. -/
def pairs? (value? : List Char → Option (Toml × List Char)) :
    Nat → List Char → Option (List (Path × Toml) × List Char)
  | 0, _ => none
  | fuel + 1, text => do
    let (pair, rest) ← pair? value? text
    match skipBlank rest with
    | ',' :: rest =>
      let (pairs, rest) ← pairs? value? fuel rest
      return (pair :: pairs, rest)
    | '}' :: rest => return ([pair], rest)
    | _ => none

/-- A value in which arrays and tables nest as deep as given. -/
def value? : Nat → List Char → Option (Toml × List Char)
  | 0, text => scalar? text
  | depth + 1, text => match text with
    | '[' :: rest =>
      (items? (value? depth) (rest.length + 1) rest).map fun (vs, rest) => (.array vs, rest)
    | '{' :: rest => match skipBlank rest with
      | '}' :: rest => some (.table .braces [], rest)
      | rest => do
        let (pairs, rest) ← pairs? (value? depth) (rest.length + 1) rest
        return (← ofPairs? pairs, rest)
    | _ => scalar? text

/-- A heading or a pair, and the end of its line. -/
def line? : List Char → Option (Line × List Char)
  | '[' :: '[' :: rest => do
    let (path, rest) ← path? rest
    let rest ← (expect? ']' rest).bind (expect? ']')
    return (.item path, ← endLine? rest)
  | '[' :: rest => do
    let (path, rest) ← path? rest
    let rest ← expect? ']' rest
    return (.table path, ← endLine? rest)
  | text => do
    let ((path, v), rest) ← pair? (value? (depthLimit - 1)) text
    return (.pair path v, ← endLine? rest)

/-- The lines of a document. -/
def lines? : Nat → List Char → Option (List Line)
  | 0, _ => none
  | fuel + 1, text => match skipBlank text with
    | [] => some []
    | text => match endLine? text with
      | some rest => lines? fuel rest
      | none => do
        let (line, rest) ← line? text
        return line :: (← lines? fuel rest)

/-- The text without the mark that says how it is encoded. -/
def dropMark : List Char → List Char
  | '\ufeff' :: rest => rest
  | text => text

end Reader

/-- The members of the document that a text holds, if the whole text is TOML and no name is taken
twice. Every line takes a character, so the length of the text is more than enough steps. -/
def parse? (text : String) : Option Members :=
  let chars := Reader.dropMark text.toList
  (Reader.lines? (chars.length + 1) chars).bind ofLines?

end Refetch.Toml
