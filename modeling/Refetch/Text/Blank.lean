/-
# Blank characters and trimming

A character is blank if it has the white space property: the ASCII controls from tab to carriage
return, the space, the next line control, the no-break space, and the typographic spaces and line
separators.
-/

namespace Refetch.Text

/-- Is the character white space. -/
def isBlank (c : Char) : Bool :=
  let n := c.toNat
  (9 ≤ n && n ≤ 13) || n == 0x20 || n == 0x85 || n == 0xA0 || n == 0x1680
    || (0x2000 ≤ n && n ≤ 0x200A) || n == 0x2028 || n == 0x2029 || n == 0x202F || n == 0x205F
    || n == 0x3000

/-- The characters without the blank ones at the end. -/
def dropBlankEnd (cs : List Char) : List Char := (cs.reverse.dropWhile isBlank).reverse

/-- The text without blank characters at either end. -/
def trim (s : String) : String := String.ofList (dropBlankEnd (s.toList.dropWhile isBlank))

/-- Does the text hold nothing but blank characters. -/
def allBlank (s : String) : Bool := s.toList.all isBlank

end Refetch.Text
