import SiteTemplates.Yaml.Lexeme

/-!
# Trees of a document

The lexemes of a document make a tree of scalars, lists and maps.  Wherever something may be left
out, an empty plain scalar stands for it.  A fault among the lexemes counts if nothing before it is
out of place.
-/

namespace SiteTemplates.Yaml

/-- A tree of scalars, lists and maps. -/
inductive Tree where
  | scalar (plain : Bool) (text : String)
  | list (items : List Tree)
  | map (entries : List (Tree × Tree))

namespace Tree

def absent : Tree := scalar true ""

/-- Where something is expected, and so how it may look: after a hyphen or at the top, after a key
or at one, where a list need not be indented, or between brackets. -/
inductive Place where
  | entry
  | keyed
  | flow
deriving DecidableEq, Repr

/-- The lexemes before which nothing is left out in a list of indented entries. -/
def endsItem (l : Lexeme) : Bool := l matches .item | .blockEnd

def endsKeyedItem (l : Lexeme) : Bool := l matches .item | .key | .value | .blockEnd

/-- The lexemes before which nothing is left out in a map of indented entries. -/
def endsKeyed (l : Lexeme) : Bool := l matches .key | .value | .blockEnd

def endsListKey (l : Lexeme) : Bool := l matches .value | .comma | .flowListEnd

def endsListValue (l : Lexeme) : Bool := l matches .comma | .flowListEnd

def endsMapKey (l : Lexeme) : Bool := l matches .value | .comma | .flowMapEnd

def endsMapValue (l : Lexeme) : Bool := l matches .comma | .flowMapEnd

/-- The failure where something else is expected than the lexemes that follow. -/
def unexpected : List Lexeme → Failure
  | .fault e :: _ => e
  | _ => .badDocument

/-- What remains in front of the next item between brackets: nothing is needed before the first one,
and a comma before any other. -/
def separated (isFirst : Bool) (lexemes : List Lexeme) : Except Failure (List Lexeme) :=
  if isFirst then .ok lexemes
  else
    match lexemes with
    | .comma :: rest => .ok rest
    | _ => .error (unexpected lexemes)

mutual

def read (fuel : Nat) (place : Place) (lexemes : List Lexeme) :
    Except Failure (Tree × List Lexeme) :=
  match fuel with
  | 0 => .error .badDocument
  | fuel + 1 =>
    match lexemes with
    | .scalar plain text :: rest => .ok (scalar plain text, rest)
    | .flowListStart :: rest => readFlowItems fuel [] rest
    | .flowMapStart :: rest => readFlowEntries fuel [] rest
    | .listStart :: rest => if place = .flow then .error .badDocument else readItems fuel [] rest
    | .mapStart :: rest => if place = .flow then .error .badDocument else readEntries fuel [] rest
    | .item :: _ => if place = .keyed then readKeyedItems fuel [] lexemes else .error .badDocument
    | _ => .error (unexpected lexemes)

/-- Reads a tree unless it is left out, as it is before the lexemes that `ends` tells. -/
def readOr (fuel : Nat) (ends : Lexeme → Bool) (place : Place) (lexemes : List Lexeme) :
    Except Failure (Tree × List Lexeme) :=
  match fuel with
  | 0 => .error .badDocument
  | fuel + 1 => if lexemes.head?.any ends then .ok (absent, lexemes) else read fuel place lexemes

/-- Reads the rest of a list of indented entries; the items so far come last first. -/
def readItems (fuel : Nat) (items : List Tree) (lexemes : List Lexeme) :
    Except Failure (Tree × List Lexeme) :=
  match fuel with
  | 0 => .error .badDocument
  | fuel + 1 =>
    match lexemes with
    | .item :: rest => do
      let (t, rest) ← readOr fuel endsItem .entry rest
      readItems fuel (t :: items) rest
    | .blockEnd :: rest => .ok (list items.reverse, rest)
    | _ => .error (unexpected lexemes)

def readKeyedItems (fuel : Nat) (items : List Tree) (lexemes : List Lexeme) :
    Except Failure (Tree × List Lexeme) :=
  match fuel with
  | 0 => .error .badDocument
  | fuel + 1 =>
    match lexemes with
    | .item :: rest => do
      let (t, rest) ← readOr fuel endsKeyedItem .entry rest
      readKeyedItems fuel (t :: items) rest
    | _ => .ok (list items.reverse, lexemes)

def readEntries (fuel : Nat) (entries : List (Tree × Tree)) (lexemes : List Lexeme) :
    Except Failure (Tree × List Lexeme) :=
  match fuel with
  | 0 => .error .badDocument
  | fuel + 1 =>
    match lexemes with
    | .key :: rest => do
      let (k, rest) ← readOr fuel endsKeyed .keyed rest
      let (v, rest) ← readValue fuel endsKeyed .keyed rest
      readEntries fuel ((k, v) :: entries) rest
    | .blockEnd :: rest => .ok (map entries.reverse, rest)
    | _ => .error (unexpected lexemes)

/-- Reads the value of a key, which is left out if there is no mark of it. -/
def readValue (fuel : Nat) (ends : Lexeme → Bool) (place : Place) (lexemes : List Lexeme) :
    Except Failure (Tree × List Lexeme) :=
  match fuel with
  | 0 => .error .badDocument
  | fuel + 1 =>
    match lexemes with
    | .value :: rest => readOr fuel ends place rest
    | _ => .ok (absent, lexemes)

/-- Reads the rest of a list in square brackets.  An item with a key is a map of its own. -/
def readFlowItems (fuel : Nat) (items : List Tree) (lexemes : List Lexeme) :
    Except Failure (Tree × List Lexeme) :=
  match fuel with
  | 0 => .error .badDocument
  | fuel + 1 =>
    match lexemes with
    | .flowListEnd :: rest => .ok (list items.reverse, rest)
    | _ => do
      let lexemes ← separated items.isEmpty lexemes
      match lexemes with
      | .flowListEnd :: rest => return (list items.reverse, rest)
      | .key :: rest =>
        let (k, rest) ← readOr fuel endsListKey .flow rest
        let (v, rest) ← readValue fuel endsListValue .flow rest
        readFlowItems fuel (map [(k, v)] :: items) rest
      | _ =>
        let (t, rest) ← read fuel .flow lexemes
        readFlowItems fuel (t :: items) rest

/-- Reads the rest of a map in braces.  What has no mark of a key is one without a value. -/
def readFlowEntries (fuel : Nat) (entries : List (Tree × Tree)) (lexemes : List Lexeme) :
    Except Failure (Tree × List Lexeme) :=
  match fuel with
  | 0 => .error .badDocument
  | fuel + 1 =>
    match lexemes with
    | .flowMapEnd :: rest => .ok (map entries.reverse, rest)
    | _ => do
      let lexemes ← separated entries.isEmpty lexemes
      match lexemes with
      | .flowMapEnd :: rest => return (map entries.reverse, rest)
      | .key :: rest =>
        let (k, rest) ← readOr fuel endsMapKey .flow rest
        let (v, rest) ← readValue fuel endsMapValue .flow rest
        readFlowEntries fuel ((k, v) :: entries) rest
      | _ =>
        let (t, rest) ← read fuel .flow lexemes
        readFlowEntries fuel ((t, absent) :: entries) rest

end

/-- A tree after which there is nothing but the ends of documents. -/
def alone (t : Tree) (lexemes : List Lexeme) : Except Failure Tree :=
  match lexemes.dropWhile (fun l => l == .documentEnd) with
  | [] => .ok t
  | rest => .error (unexpected rest)

/-- The tree of a document that is alone in a text.  An empty text stands for an empty document. -/
def ofLexemes (lexemes : List Lexeme) : Except Failure Tree := do
  let fuel := 4 * lexemes.length + 4
  match lexemes with
  | [] => return absent
  | [.documentStart] => return absent
  | .documentStart :: .documentEnd :: rest => alone absent rest
  | .documentStart :: rest =>
    let (t, rest) ← read fuel .entry rest
    alone t rest
  | _ =>
    let (t, rest) ← read fuel .entry lexemes
    alone t rest

end Tree

end SiteTemplates.Yaml
