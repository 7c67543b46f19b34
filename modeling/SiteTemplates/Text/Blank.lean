/-!
# Blank characters

What separates words and may be trimmed: the separators of every script, and the control characters
that end a line, a page or a field.  `trim` takes the blanks off both ends and keeps those inside.
-/

namespace SiteTemplates.Text

/-- The separators, and the controls U+0009 to U+000D, U+001C to U+001F and U+0085. -/
def isBlank (c : Char) : Bool :=
  let n := c.toNat
  (9 ≤ n && n ≤ 13) || (28 ≤ n && n ≤ 32) || n == 0x85 || n == 0xA0 || n == 0x1680 ||
    (0x2000 ≤ n && n ≤ 0x200A) || n == 0x2028 || n == 0x2029 || n == 0x202F || n == 0x205F ||
    n == 0x3000

def trimStart (s : List Char) : List Char := s.dropWhile isBlank

def trimEnd (s : List Char) : List Char := (s.reverse.dropWhile isBlank).reverse

def trim (s : List Char) : List Char := trimEnd (trimStart s)

def allBlank (s : List Char) : Bool := s.all isBlank

def trimmed (s : String) : String := String.ofList (trim s.toList)

end SiteTemplates.Text
