import SiteTemplates.Project.Folder
import SiteTemplates.Template.Named
import SiteTemplates.Text.Case

/-!
# The templates of a project

Every file below a folder whose suffix is one of the template suffixes holds a template.  Its name
is the path of the file without the suffix.
-/

namespace SiteTemplates

def templateSuffixes : List String := [".html", ".hbs", ".tmpl"]

def isTemplateSuffix (suffix : String) : Bool :=
  templateSuffixes.contains (String.ofList (Text.lower suffix.toList))

/-- The name of the template in the file at a path, if that holds one. -/
def templateName? (path : List String) : Option String :=
  match path.reverse with
  | [] => none
  | name :: above =>
    let (stem, suffix) := stemAndSuffix name
    if isTemplateSuffix suffix then some ("/".intercalate (stem :: above).reverse) else none

def templatesOf : List (List String × ByteArray) → Except Failure (List Template)
  | [] => .ok []
  | (path, content) :: rest =>
    match templateName? path with
    | none => templatesOf rest
    | some name => do
      let source ← readText content
      match Template.ofParts name (some (String.ofList source)) with
      | .error r => .error (.refused r)
      | .ok t => return t :: (← templatesOf rest)

def loadTemplates (entries : List (String × Entry)) : Except Failure (List Template) :=
  templatesOf (Entry.files entries)

end SiteTemplates
