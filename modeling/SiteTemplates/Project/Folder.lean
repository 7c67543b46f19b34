import SiteTemplates.Failure
import SiteTemplates.Text.Split
import SiteTemplates.Value.Basic

/-!
# Folders

A project is a folder of files and folders.  A path is a list of names; written as one text, the
names stand between slashes, empty names and the name `.` stay where they are, and the name `..`
leads one folder up.  `Entry.files` lists all files below a folder with their paths, in the order of
their names from the outermost folder on.
-/

namespace SiteTemplates

open Text

/-- What makes a value of the text of a file. -/
abbrev DocumentReader := List Char → Except Failure Value

inductive Entry where
  | file (content : ByteArray)
  | folder (entries : List (String × Entry))

namespace Entry

def nothing : Entry := folder []

/-! ### Building -/

/-- What is in a folder after something is put under a name. -/
def putIn (name : String) (e : Entry) : List (String × Entry) → List (String × Entry)
  | [] => [(name, e)]
  | (n, old) :: rest => if n = name then (n, e) :: rest else (n, old) :: putIn name e rest

/-- Puts something at the end of a path that begins at a place, with the folders that lead there.  A
folder that is there already keeps what is in it. -/
def put (here : Entry) (path : List String) (new : Entry) : Entry :=
  match path with
  | [] =>
    match new, here with
    | folder [], folder entries => folder entries
    | _, _ => new
  | name :: path =>
    let entries :=
      match here with
      | folder entries => entries
      | file _ => []
    folder (putIn name (put ((entries.lookup name).getD nothing) path new) entries)

def pathOf (s : String) : List String :=
  ((splitAll '/' s.toList).map String.ofList).filter (fun name => name ≠ "" ∧ name ≠ ".")

/-! ### Finding -/

/-- What is at the end of a path that begins at a place; the folders above that place come innermost
first. -/
def walk? (above : List Entry) (here : Entry) : List String → Option Entry
  | [] => some here
  | name :: path =>
    match here with
    | file _ => none
    | folder entries =>
      if name = ".." then
        match above with
        | [] => none
        | up :: above => walk? above up path
      else
        match entries.lookup name with
        | none => none
        | some e => walk? (here :: above) e path

def find? (e : Entry) (path : String) : Option Entry :=
  if path.startsWith "/" then none else walk? [] e (pathOf path)

/-- What is in a folder at the end of a path, nothing if there is none. -/
def listing (e : Entry) (path : String) : List (String × Entry) :=
  match e.find? path with
  | some (folder entries) => entries
  | _ => []

/-! ### Listing -/

/-- Whether a path comes no later than another.  They are compared name by name. -/
def pathLE : List String → List String → Bool
  | [], _ => true
  | _ :: _, [] => false
  | a :: as, b :: bs => decide (a < b) || (a == b && pathLE as bs)

mutual

/-- All files at a place or below it, under their paths. -/
def filesAt (path : List String) : Entry → List (List String × ByteArray)
  | file content => [(path, content)]
  | folder entries => filesIn path entries

def filesIn (path : List String) : List (String × Entry) → List (List String × ByteArray)
  | [] => []
  | (name, e) :: rest => filesAt (path ++ [name]) e ++ filesIn path rest

end

def files (entries : List (String × Entry)) : List (List String × ByteArray) :=
  (filesIn [] entries).mergeSort (fun a b => pathLE a.1 b.1)

end Entry

/-! ### Files -/

/-- Writes every end of a line as a line feed, after the characters `done`, last first. -/
def unifyLinesFrom (done : List Char) : List Char → List Char
  | [] => done.reverse
  | '\r' :: '\n' :: rest => unifyLinesFrom ('\n' :: done) rest
  | c :: rest => unifyLinesFrom ((if c = '\r' then '\n' else c) :: done) rest

def unifyLines (s : List Char) : List Char := unifyLinesFrom [] s

def readText (content : ByteArray) : Except Failure (List Char) :=
  match String.fromUTF8? content with
  | some s => .ok (unifyLines s.toList)
  | none => .error .notText

/-- The name of a file in two parts: up to the last point and from there on.  A point at the start
or at the end does not count. -/
def stemAndSuffix (name : String) : String × String :=
  let back := name.toList.reverse
  let suffix := back.takeWhile (fun c => c != '.')
  match back.dropWhile (fun c => c != '.') with
  | '.' :: stem =>
    if stem.isEmpty || suffix.isEmpty then (name, "")
    else (String.ofList stem.reverse, String.ofList ('.' :: suffix.reverse))
  | _ => (name, "")

end SiteTemplates
