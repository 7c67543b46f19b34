import SiteTemplates.Text.Blank

/-!
# Shortened text

`truncate` cuts a text to a length and marks the cut with an ellipsis, which comes on top of the
length.  `wordExcerpt` cuts at the last space within the length; where that leaves no room for the
ellipsis, it makes room for it and may cut inside a word.
-/

namespace SiteTemplates.Text

def ellipsis : List Char := ['.', '.', '.']

/-- The first `length` characters and an ellipsis.  A text that fits stays as it is, and so does
every text if the length is negative. -/
def truncate (s : List Char) (length : Int) : List Char :=
  if length < 0 ∨ s.length ≤ length then s else trimEnd (s.take length.toNat) ++ ellipsis

/-- The text before its last space, unless that leaves nothing. -/
def beforeLastSpace (s : List Char) : List Char :=
  match s.reverse.dropWhile (· != ' ') with
  | _ :: c :: before => (c :: before).reverse
  | _ => s

/-- The start of a text with an ellipsis, cut at the last space of the first `length` characters, or
where the ellipsis needs it if that comes first.  A text that fits stays as it is. -/
def wordExcerpt (s : List Char) (length : Int) : List Char :=
  if s.length ≤ length then s
  else
    let cut := beforeLastSpace (s.take length.toNat) ++ ellipsis
    if length < cut.length then s.take (length - ellipsis.length).toNat ++ ellipsis else cut

end SiteTemplates.Text
