import SiteTemplates.Text.Blank
import SiteTemplates.Text.Quotation
import SiteTemplates.Template.Defect

/-!
# Expressions of variable tags

An expression is a path, and after it the filters that its value goes through, each behind a bar:
`path | name:argument,argument | name`.  Quotes hide bars and commas.  A path is any text without
blanks, quotes, braces and the marks `|`, `:` and `,`.
-/

namespace SiteTemplates

open Text

/-- A filter with its literal arguments. -/
structure FilterCall where
  name : String
  arguments : List String
deriving DecidableEq, Repr

/-- A path and the filters that its value goes through. -/
structure Expression where
  path : String
  filters : List FilterCall
deriving DecidableEq, Repr

namespace Expression

def isPathChar (c : Char) : Bool :=
  !(isBlank c || isQuote c || c == '|' || c == ':' || c == ',' || c == '{' || c == '}')

/-- The arguments in the text after the colon of a filter. -/
def argumentsOf (s : List Char) : List String :=
  if allBlank s then []
  else (splitOutside ',' s).map (fun a => String.ofList (unquote (trim a)))

/-- Reads one filter stage, or `none` if it names no filter. -/
def filterOf? (stage : List Char) : Option FilterCall :=
  let (name, arguments) := cutAt ':' (trim stage)
  match trim name with
  | [] => none
  | name => some ⟨String.ofList name, argumentsOf arguments⟩

def ofText (s : List Char) : Except Defect Expression :=
  match splitOutside '|' s with
  | [] => .error .emptyExpression
  | first :: stages =>
    match trim first with
    | [] => .error .emptyExpression
    | path =>
      if path.all isPathChar = false then .error (.invalidPath (String.ofList path))
      else
        match stages.mapM filterOf? with
        | none => .error (.unnamedFilter (String.ofList (trim s)))
        | some filters => .ok ⟨String.ofList path, filters⟩

end Expression

end SiteTemplates
