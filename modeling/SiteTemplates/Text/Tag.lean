/-!
# Tags in text

A tag is whatever stands between a `<` and the first `>` after it.  `stripTags` leaves the tags out;
a `<` without a `>` after it is no tag.
-/

namespace SiteTemplates.Text

/-- Leaves the tags out, after the result `done` so far (last first).  A tag that is open is kept in
`tag` (last first), in case it is never closed. -/
def stripTagsFrom (done : List Char) (tag : Option (List Char)) : List Char → List Char
  | [] => ((tag.getD []) ++ done).reverse
  | c :: rest =>
    match tag with
    | none =>
      if c = '<' then stripTagsFrom done (some ['<']) rest
      else stripTagsFrom (c :: done) none rest
    | some t =>
      if c = '>' then stripTagsFrom done none rest
      else stripTagsFrom done (some (c :: t)) rest

def stripTags (s : List Char) : List Char := stripTagsFrom [] none s

end SiteTemplates.Text
