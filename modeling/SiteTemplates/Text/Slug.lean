import SiteTemplates.Text.Case

/-!
# Slugs

A slug names a page in an address: plain lower-case letters and digits, in words that single hyphens
join.  `slug` lowers the case of a text, puts one hyphen for every stretch of other characters, and
takes the hyphens off both ends.
-/

namespace SiteTemplates.Text

def isSlugChar (c : Char) : Bool := ('a' ≤ c && c ≤ 'z') || ('0' ≤ c && c ≤ '9')

/-- Puts one hyphen for every stretch of other characters, after the result `done` so far (last
first); `inside` says whether the text goes on within such a stretch. -/
def hyphenateFrom (inside : Bool) (done : List Char) : List Char → List Char
  | [] => done.reverse
  | c :: rest =>
    if isSlugChar c then hyphenateFrom false (c :: done) rest
    else if inside then hyphenateFrom true done rest
    else hyphenateFrom true ('-' :: done) rest

def trimHyphens (s : List Char) : List Char :=
  ((s.dropWhile (· == '-')).reverse.dropWhile (· == '-')).reverse

def slug (s : List Char) : List Char := trimHyphens (hyphenateFrom false [] (lower s))

end SiteTemplates.Text
