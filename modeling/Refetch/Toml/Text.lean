/-
# The text of TOML documents

Besides text in quotes a document has blanks, ends of lines and comments. Text stands in quotes, in
which a backslash begins an escape, or in apostrophes, in which it does not; three of either allow
ends of lines. No control character but the tab may stand for itself anywhere.
-/

namespace Refetch.Toml.Reader

/-- Skips spaces and tabs. -/
def skipBlank : List Char → List Char
  | c :: rest => if c = ' ' ∨ c = '\t' then skipBlank rest else c :: rest
  | [] => []

/-- The text after the end of a line. -/
def newline? : List Char → Option (List Char)
  | '\n' :: rest => some rest
  | '\r' :: '\n' :: rest => some rest
  | _ => none

/-- May a character stand in comments and text: every character but the controls, of which the tab
may. -/
def isPlain (c : Char) : Bool := c = '\t' || (0x20 ≤ c.toNat && c.toNat ≠ 0x7F)

def skipComment : List Char → List Char
  | '#' :: rest => rest.dropWhile isPlain
  | text => text

/-- The rest of a line that holds no more than blanks and a comment, and its end. -/
def endLine? (text : List Char) : Option (List Char) :=
  match skipComment (skipBlank text) with
  | [] => some []
  | rest => newline? rest

/-- Skips blanks, ends of lines and comments; `true` inside a comment. -/
def skipLines : Bool → List Char → List Char
  | _, [] => []
  | _, '\r' :: '\n' :: rest => skipLines false rest
  | comment, c :: rest =>
    if c = '\n' then skipLines false rest
    else if comment then if isPlain c then skipLines true rest else c :: rest
    else if c = ' ' ∨ c = '\t' then skipLines false rest
    else if c = '#' then skipLines true rest
    else c :: rest

/-- The value of a hexadecimal digit of either case. -/
def hex? (c : Char) : Option Nat :=
  if '0' ≤ c ∧ c ≤ '9' then some (c.toNat - 48)
  else if 'a' ≤ c ∧ c ≤ 'f' then some (c.toNat - 87)
  else if 'A' ≤ c ∧ c ≤ 'F' then some (c.toNat - 55)
  else none

/-- The character whose code point the next hexadecimal digits give, as many as there must be. -/
def codePoint? : Nat → Nat → List Char → Option (Char × List Char)
  | 0, value, text => if value.isValidChar then some (Char.ofNat value, text) else none
  | _ + 1, _, [] => none
  | count + 1, value, c :: rest => (hex? c).bind fun d => codePoint? count (value * 16 + d) rest

/-- The character after a backslash. -/
def escape? : List Char → Option (Char × List Char)
  | '"' :: rest => some ('"', rest)
  | '\\' :: rest => some ('\\', rest)
  | 'b' :: rest => some ('\x08', rest)
  | 'f' :: rest => some ('\x0c', rest)
  | 'n' :: rest => some ('\n', rest)
  | 'r' :: rest => some ('\r', rest)
  | 't' :: rest => some ('\t', rest)
  | 'u' :: rest => codePoint? 4 0 rest
  | 'U' :: rest => codePoint? 8 0 rest
  | _ => none

/-- The rest of a text after its opening quote, the characters read so far held in reverse. -/
def basicTail? : Nat → List Char → List Char → Option (String × List Char)
  | 0, _, _ => none
  | fuel + 1, done, text => match text with
    | [] => none
    | '"' :: rest => some (String.ofList done.reverse, rest)
    | '\\' :: rest => (escape? rest).bind fun (c, rest) => basicTail? fuel (c :: done) rest
    | c :: rest => if isPlain c then basicTail? fuel (c :: done) rest else none

/-- The rest of a text after its opening apostrophe, in which nothing is escaped. -/
def literalTail? : List Char → List Char → Option (String × List Char)
  | _, [] => none
  | done, c :: rest =>
    if c = '\'' then some (String.ofList done.reverse, rest)
    else if isPlain c then literalTail? (c :: done) rest else none

/-- Up to two more quotes, which belong to the text that three quotes have just ended. -/
def extraQuotes (quote : Char) : List Char → List Char × List Char
  | a :: b :: rest =>
    if a = quote then if b = quote then ([a, b], rest) else ([a], b :: rest)
    else ([], a :: b :: rest)
  | [a] => if a = quote then ([a], []) else ([], [a])
  | [] => ([], [])

/-- The text after a backslash at the end of a line: all blanks and ends of lines are skipped. -/
def continued? (text : List Char) : Option (List Char) :=
  (newline? (skipBlank text)).map fun rest => skip rest
where
  /-- Skips blanks and ends of lines. -/
  skip : List Char → List Char
    | '\r' :: '\n' :: rest => skip rest
    | c :: rest => if c = ' ' ∨ c = '\t' ∨ c = '\n' then skip rest else c :: rest
    | [] => []

/-- The rest of a text of several lines after its three opening quotes, or apostrophes, between
which nothing is escaped. Every end of a line is a line feed. -/
def longTail? (quote : Char) : Nat → List Char → List Char → Option (String × List Char)
  | 0, _, _ => none
  | fuel + 1, done, text => match text with
    | [] => none
    | '\r' :: '\n' :: rest => longTail? quote fuel ('\n' :: done) rest
    | '\n' :: rest => longTail? quote fuel ('\n' :: done) rest
    | c :: rest =>
      if c = quote then match rest with
        | d :: e :: after =>
          if d = quote ∧ e = quote then
            let (extra, rest) := extraQuotes quote after
            some (String.ofList (done.reverse ++ extra), rest)
          else longTail? quote fuel (c :: done) rest
        | _ => none
      else if c = '\\' ∧ quote = '"' then match continued? rest with
        | some rest => longTail? quote fuel done rest
        | none => (escape? rest).bind fun (c, rest) => longTail? quote fuel (c :: done) rest
      else if isPlain c then longTail? quote fuel (c :: done) rest
      else none

/-- A text of several lines; an end of line right after the opening is left out. -/
def longText? (quote : Char) (text : List Char) : Option (String × List Char) :=
  longTail? quote (text.length + 1) [] ((newline? text).getD text)

/-- A text in quotes or apostrophes, one or three. -/
def text? : List Char → Option (String × List Char)
  | '"' :: '"' :: '"' :: rest => longText? '"' rest
  | '"' :: rest => basicTail? (rest.length + 1) [] rest
  | '\'' :: '\'' :: '\'' :: rest => longText? '\'' rest
  | '\'' :: rest => literalTail? [] rest
  | _ => none

end Refetch.Toml.Reader
