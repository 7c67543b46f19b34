import SiteTemplates.Yaml.Cursor

/-!
# Lines folded into one

In most scalars the end of a line stands for a space, and empty lines after it stand for line feeds.
-/

namespace SiteTemplates.Yaml

/-- What lies between two words of a scalar: spaces, or the end of a line and those of empty lines
after it, all of them last first. -/
inductive Gap where
  | spaces (s : List Char)
  | lines (first : Char) (more : List Char)
deriving Repr

def Gap.folded : Gap → List Char
  | .spaces s => s
  | .lines first more =>
    if first = '\n' then (if more.isEmpty then [' '] else more) else more ++ [first]

def Gap.endsLine : Gap → Bool
  | .spaces _ => false
  | .lines _ _ => true

end SiteTemplates.Yaml
