import SiteTemplates.Template.Defect

/-!
# Faults of templates

Why a template cannot be rendered.  A fault comes with the name of the template that is at fault,
where there is one, and that name stands before the reason.
-/

namespace SiteTemplates

/-- What a template is looked up for. -/
inductive Role where
  | root
  | part
  | layout
deriving DecidableEq, Repr

def Role.word : Role → String
  | root => "Template"
  | part => "Partial"
  | layout => "Layout"

/-- Why a template cannot be rendered.  A cycle is given by the chain of all the templates in it. -/
inductive Fault where
  | flaw (f : Flaw)
  | oversized (size : Nat) (limit : Int)
  | tooDeep (limit : Int)
  | missing (role : Role) (name : String)
  | cycle (role : Role) (chain : List String)
  | contextNotMap
  | notInteger (filter argument : String)
deriving DecidableEq, Repr

namespace Fault

def reason : Fault → String
  | flaw f => f.reason
  | oversized size limit =>
    "Template size " ++ toString size ++ " exceeds limit of " ++ toString limit
  | tooDeep limit => "Maximum nesting depth of " ++ toString limit ++ " exceeded"
  | missing role name => role.word ++ " '" ++ name ++ "' not found"
  | cycle role chain => role.word ++ " cycle detected: " ++ " -> ".intercalate chain
  | contextNotMap => "Render context must be a mapping"
  | notInteger filter argument =>
    "Filter '" ++ filter ++ "' expects an integer, got '" ++ argument ++ "'"

end Fault

/-- A fault and the template at fault. -/
structure TemplateError where
  fault : Fault
  name : Option String
deriving DecidableEq, Repr

namespace TemplateError

def message (e : TemplateError) : String :=
  match e.name with
  | none => e.fault.reason
  | some name => if name.isEmpty then e.fault.reason else name ++ ": " ++ e.fault.reason

end TemplateError

end SiteTemplates
