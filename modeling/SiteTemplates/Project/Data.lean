import SiteTemplates.Project.Folder
import SiteTemplates.Value.Path

/-!
# The data of a project

The data files of a folder are the ones whose names end in `.yaml`.  They are read in the order of
their names.  The map in `site.yaml` is laid over the data; the map in any other file is put under
the name of the file, without its suffix.  A file with nothing in it counts as an empty map, and one
with something else than a map does not count.  What a file means is for a `DocumentReader` to say.
-/

namespace SiteTemplates

/-- The name of the file whose entries belong to all of the site. -/
def siteFile : String := "site.yaml"

def isDataFile (name : String) : Bool := ".yaml".toList.isSuffixOf name.toList

def payload? (v : Value) : Option (List (Value × Value)) :=
  match v with
  | .map entries => some entries
  | v => if v.isTrue then none else some []

def addData (data : List (Value × Value)) (name : String) (v : Value) : List (Value × Value) :=
  match payload? v with
  | none => data
  | some entries =>
    if name = siteFile then Value.overlay data entries
    else Value.put (.text (stemAndSuffix name).1) (.map entries) data

def readDataBy (read : DocumentReader) : Entry → Except Failure Value
  | .file content => do read (← readText content)
  | .folder _ => .error .notFile

def dataFiles (entries : List (String × Entry)) : List (String × Entry) :=
  (entries.filter (fun e => isDataFile e.1)).mergeSort (fun a b => decide (a.1 ≤ b.1))

def loadDataBy (read : DocumentReader) (entries : List (String × Entry)) :
    Except Failure (List (Value × Value)) :=
  (dataFiles entries).foldlM (fun data e => (readDataBy read e.2).map (addData data e.1)) []

end SiteTemplates
