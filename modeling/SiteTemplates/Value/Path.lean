import SiteTemplates.Number.Integer
import SiteTemplates.Text.Split
import SiteTemplates.Value.Basic

/-!
# Paths, truth and scopes

A path is a list of names with points between them.  Each name is looked up in the map that was
found so far; a name of digits also counts as an index into a list.  A miss gives nothing, and
nothing has nothing in it.

The body of a loop has a scope of its own: the scope around it, over it the entries of the item if
that is a map, and over both the name `this` for the item.
-/

namespace SiteTemplates

open Text

namespace Value

/-- What a name finds in a value.  It fails for a name that looks like an index and is no number. -/
def step? (name : List Char) : Value → Option Value
  | map entries => some ((lookup? (String.ofList name) entries).getD null)
  | list items =>
    if allDigits name then (readInteger? name).map (fun n => items.getD n.toNat null) else some null
  | _ => some null

def walk? (value : Value) : List (List Char) → Option Value
  | [] => some value
  | name :: rest => (step? name value).bind (fun v => walk? v rest)

def resolve? (path : String) (context : List (Value × Value)) : Option Value :=
  walk? (map context) (splitAll '.' path.toList)

def isTrue : Value → Bool
  | null => false
  | bool b => b
  | int n => n != 0
  | real x => !x.isZero
  | text s => !s.isEmpty
  | list items => !items.isEmpty
  | map entries => !entries.isEmpty
  | _ => true

def loopScope (outer : List (Value × Value)) (item : Value) : List (Value × Value) :=
  let scope :=
    match item with
    | map entries => overlay outer entries
    | _ => outer
  put (text "this") item scope

end Value

end SiteTemplates
