import SiteTemplates.Text.Split

/-!
# Patterns with stars

In a pattern a star stands for any text, the empty one included, and every other character for
itself.  A key matches if the pattern covers all of it.  The parts between the stars are looked for
from left to right, each at its first place after the one before; only the last part has to be at
the end.
-/

namespace SiteTemplates.Text

/-- What follows the first occurrence of a part in a text. -/
def afterFirst? (part : List Char) : List Char → Option (List Char)
  | [] => if part.isEmpty then some [] else none
  | c :: s =>
    if part.isPrefixOf (c :: s) then some ((c :: s).drop part.length) else afterFirst? part s

/-- Whether a text holds the parts in order and without overlap, the last one at its end. -/
def holdsParts (s : List Char) : List (List Char) → Bool
  | [] => s.isEmpty
  | [last] => last.isSuffixOf s
  | part :: parts =>
    match afterFirst? part s with
    | some rest => holdsParts rest parts
    | none => false

def globMatches (pattern key : List Char) : Bool :=
  match splitAll '*' pattern with
  | [] => key.isEmpty
  | [whole] => whole == key
  | first :: parts => first.isPrefixOf key && holdsParts (key.drop first.length) parts

end SiteTemplates.Text
