import SiteTemplates.Template.Fault

/-!
# Failures

What can go wrong besides faults of templates.
-/

namespace SiteTemplates

/-- What a record, a template, a filter or a cache must not be made of. -/
inductive Refusal where
  | noCapacity
  | emptyFilename
  | noLastModified
  | emptyTemplateName
  | noTemplateSource
  | emptyFilterName
deriving DecidableEq, Repr

def Refusal.message : Refusal → String
  | noCapacity => "capacity must be at least 1"
  | emptyFilename => "filename must not be empty"
  | noLastModified => "last_modified is required"
  | emptyTemplateName => "template name must not be empty"
  | noTemplateSource => "template source must not be None"
  | emptyFilterName => "filter name must not be empty"

/-- Why an operation fails.  Blocks that refer to one another without end are `endless`. -/
inductive Failure where
  | template (e : TemplateError)
  | render (key : String) (e : TemplateError)
  | refused (r : Refusal)
  | badNumber
  | outOfRange
  | wrongKind
  | notText
  | badDocument
  | notFile
  | endless
deriving DecidableEq, Repr

/-- The failure in words, for those that this library words itself. -/
def Failure.message? : Failure → Option String
  | template e => some e.message
  | render key e => some (key ++ ": " ++ e.message)
  | refused r => some r.message
  | _ => none

end SiteTemplates
