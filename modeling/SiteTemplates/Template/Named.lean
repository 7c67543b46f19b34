import SiteTemplates.Failure
import SiteTemplates.Template.Reference
import SiteTemplates.Text.Blank

/-!
# Named templates

A template has a name, which is not blank, and a source.
-/

namespace SiteTemplates

open Text

structure Template where
  name : String
  source : String
  named : allBlank name.toList = false
deriving DecidableEq

namespace Template

/-- The template of a name and a source, if both are there. -/
def ofParts (name : String) (source : Option String) : Except Refusal Template :=
  if h : allBlank name.toList = false then
    match source with
    | some s => .ok ⟨name, s, h⟩
    | none => .error .noTemplateSource
  else .error .emptyTemplateName

def dependencies (t : Template) : List String := partialNames t.source

end Template

end SiteTemplates
