import SiteTemplates.Yaml.Meaning
import SiteTemplates.Yaml.Tree

/-!
# Documents

`readDocument` reads the value of a document.  A key of a map can be any scalar.  Entries under the
mark of a merge come from another map, or from several of which the first one counts most, and give
way to the entries that the map has of its own.

A document is read level by level: what a list or a map holds is read only after all that stands on
the level of the list or map itself.  So of several faults the one on the outermost level counts,
and on one level the first one.
-/

namespace SiteTemplates.Yaml

/-! ### Levels -/

/-- What is read, or the fault that counts, with the number of levels that it lies below. -/
abbrev Levelled (α : Type) := Except (Nat × Failure) α

namespace Levelled

variable {α β γ : Type}

def outermost (x : Except Failure α) : Levelled α := x.mapError (fun e => (0, e))

def inside (x : Levelled α) : Levelled α := x.mapError (fun e => (e.1 + 1, e.2))

/-- Two things, of which the first one is read before the second one on every level. -/
def both (f : α → β → γ) : Levelled α → Levelled β → Levelled γ
  | .ok a, .ok b => .ok (f a b)
  | .ok _, .error e => .error e
  | .error e, .ok _ => .error e
  | .error e, .error e' => .error (if e'.1 < e.1 then e' else e)

end Levelled

open Levelled (outermost inside both)

/-! ### Merges -/

def Tree.isMerge : Tree → Bool
  | .scalar true "<<" => true
  | _ => false

mutual

/-- Whether entries can come from a tree: from a map or from a list of maps. -/
def Tree.isSource : Tree → Bool
  | .map entries => mergeSources entries
  | .list items => areMaps items
  | .scalar _ _ => false

/-- Whether trees are maps from which entries can come. -/
def areMaps : List Tree → Bool
  | [] => true
  | t :: rest => t matches .map _ && t.isSource && areMaps rest

def mergeSources : List (Tree × Tree) → Bool
  | [] => true
  | (k, v) :: rest => (!k.isMerge || v.isSource) && mergeSources rest

end

/-! ### Values -/

/-- The value of a key, given as a tree and as what it would be elsewhere.  Collections are no
keys. -/
def keyOf (t : Tree) (value : Levelled Value) : Levelled Value :=
  match t with
  | .scalar true "=" => .ok (.text "=")
  | .scalar _ _ => value
  | _ => .error (0, .badDocument)

mutual

def Tree.value : Tree → Levelled Value
  | .scalar plain text => outermost (if plain then plainValue text else .ok (.text text))
  | .list items => inside ((valuesOf items).map Value.list)
  | .map entries =>
    inside
      (if mergeSources entries then
        both (fun merged own => .map (Value.entriesOf (merged ++ own)))
          (mergedEntries entries) (ownEntries entries)
      else .error (0, .badDocument))

def valuesOf : List Tree → Levelled (List Value)
  | [] => .ok []
  | t :: rest => both List.cons t.value (valuesOf rest)

def ownEntries : List (Tree × Tree) → Levelled (List (Value × Value))
  | [] => .ok []
  | (k, v) :: rest =>
    if k.isMerge then ownEntries rest
    else both List.cons (both Prod.mk (keyOf k k.value) v.value) (ownEntries rest)

def mergedEntries : List (Tree × Tree) → Levelled (List (Value × Value))
  | [] => .ok []
  | (k, v) :: rest =>
    if k.isMerge then both List.append v.sourceEntries (mergedEntries rest) else mergedEntries rest

def Tree.sourceEntries : Tree → Levelled (List (Value × Value))
  | .map entries => both List.append (mergedEntries entries) (ownEntries entries)
  | .list items => entriesOfMaps items
  | .scalar _ _ => .ok []

/-- The entries that come from trees, those of the last tree first. -/
def entriesOfMaps : List Tree → Levelled (List (Value × Value))
  | [] => .ok []
  | t :: rest => both List.append (entriesOfMaps rest) t.sourceEntries

end

def readDocument (text : List Char) : Except Failure Value := do
  let t ← Tree.ofLexemes (lexemes text)
  t.value.mapError Prod.snd

end SiteTemplates.Yaml
