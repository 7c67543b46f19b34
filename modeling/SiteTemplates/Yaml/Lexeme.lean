import SiteTemplates.Yaml.Block
import SiteTemplates.Yaml.Plain
import SiteTemplates.Yaml.Quoted

/-!
# Lexemes of a document

A document is cut into scalars and marks.  Outside of brackets the columns of entries and keys open
and close lists and maps, for which there are marks as well.

That something is a key is seen only at the colon after it.  Therefore whatever may be a key is
remembered as a candidate, one for every open bracket, and the marks of a key are put in front of it
when its colon comes.  A candidate stays one to the end of its line, at most for 1024 characters.

A fault is a lexeme as well, the last one.  In front of it are only the lexemes that are certain:
what comes from the first candidate on is not known when the fault is met.
-/

namespace SiteTemplates.Yaml

inductive Lexeme where
  | documentStart
  | documentEnd
  | listStart
  | mapStart
  | blockEnd
  | item
  | key
  | value
  | flowListStart
  | flowListEnd
  | flowMapStart
  | flowMapEnd
  | comma
  | scalar (plain : Bool) (text : String)
  | fault (e : Failure)
deriving DecidableEq, Repr

/-- What may turn out to be a key, or has to, and how many lexemes are before it. -/
structure Candidate where
  number : Nat
  required : Bool
  place : Cursor

/-- Whether something that begins at one place can be a key whose colon is at the other. -/
def Candidate.reaches (k : Candidate) (c : Cursor) : Bool :=
  k.place.line == c.line && c.index ≤ k.place.index + 1024

/-- How far the cutting of a document has come.  The lexemes are those so far, last first, the
columns those of the lists and maps of indented entries that are open, innermost first; there is a
candidate for each bracket that is open, and one besides. -/
structure Lexing where
  cursor : Cursor
  lexemes : List Lexeme := []
  count : Nat := 0
  columns : List Nat := []
  candidate? : Option Candidate := none
  outer : List (Option Candidate) := []
  mayStartKey : Bool := true

namespace Lexing

def inFlow (s : Lexing) : Bool := !s.outer.isEmpty

/-- The least column of what is inside the innermost list or map of indented entries. -/
def inner (s : Lexing) : Nat :=
  match s.columns with
  | [] => 0
  | column :: _ => column + 1

def push (l : Lexeme) (s : Lexing) : Lexing :=
  { s with lexemes := l :: s.lexemes, count := s.count + 1 }

def advance : Nat → Lexing → Lexing
  | 0, s => s
  | n + 1, s => advance n { s with cursor := s.cursor.next }

def mark (l : Lexeme) (s : Lexing) : Lexing := (s.push l).advance 1

def openAt (column : Nat) (l : Lexeme) (s : Lexing) : Lexing :=
  if s.inner ≤ column then { s.push l with columns := column :: s.columns } else s

/-- Closes the lists and maps whose entries are at columns that `closes` tells. -/
def close (closes : Nat → Bool) : List Nat → Lexing → Lexing
  | [], s => { s with columns := [] }
  | column :: outer, s =>
    if closes column then close closes outer (s.push .blockEnd)
    else { s with columns := column :: outer }

/-- Closes all lists and maps of indented entries, unless a bracket is open. -/
def closeAll (s : Lexing) : Lexing := if s.inFlow then s else s.close (fun _ => true) s.columns

/-- Closes the lists and maps of entries that are indented further than the place. -/
def closeInner (s : Lexing) : Lexing :=
  if s.inFlow then s else s.close (fun column => s.cursor.column < column) s.columns

/-! ### Candidates -/

def forget? (s : Lexing) : Option Lexing :=
  if s.candidate?.any Candidate.required then none else some { s with candidate? := none }

/-- What becomes of a candidate when the place is reached. -/
def expire? (c : Cursor) (k? : Option Candidate) : Option (Option Candidate) :=
  match k? with
  | none => some none
  | some k => if k.reaches c then some k else if k.required then none else some none

def expireAll? (s : Lexing) : Option Lexing := do
  let candidate? ← expire? s.cursor s.candidate?
  let outer ← s.outer.mapM (expire? s.cursor)
  return { s with candidate?, outer }

def remember? (s : Lexing) : Option Lexing :=
  if s.mayStartKey then do
    let required := !s.inFlow && s.columns.head? == some s.cursor.column
    let s ← s.forget?
    return { s with candidate? := some ⟨s.count, required, s.cursor⟩ }
  else some s

/-- Puts the marks of a key in front of the lexemes that came after `number` others. -/
def markKey (k : Candidate) (s : Lexing) : Lexing :=
  let after := s.lexemes.take (s.count - k.number)
  let before := s.lexemes.drop (s.count - k.number)
  let opened := openAt k.place.column .mapStart { s with lexemes := before, count := k.number }
  let opened := if s.inFlow then { s with lexemes := before, count := k.number } else opened
  let marked := opened.push .key
  { marked with lexemes := after ++ marked.lexemes, count := marked.count + after.length }

/-! ### Lexemes -/

/-- Reads three hyphens or points at the start of a line. -/
def readSeparator? (l : Lexeme) (s : Lexing) : Option Lexing := do
  let s ← s.closeAll.forget?
  return ({ s with mayStartKey := false }.push l).advance 3

def readOpening? (l : Lexeme) (s : Lexing) : Option Lexing := do
  let s ← s.remember?
  return { s with candidate? := none, outer := s.candidate? :: s.outer, mayStartKey := true }.mark l

def readClosing? (l : Lexeme) (s : Lexing) : Option Lexing :=
  match s.outer with
  | [] => none
  | candidate? :: outer => some ({ s with candidate?, outer, mayStartKey := false }.mark l)

def readComma? (s : Lexing) : Option Lexing :=
  if s.inFlow then some ({ s with candidate? := none, mayStartKey := true }.mark .comma) else none

/-- Reads the hyphen of an entry.  Between brackets it is out of place, which the trees show. -/
def readItem? (s : Lexing) : Option Lexing :=
  if s.inFlow then some ({ s with candidate? := none, mayStartKey := true }.mark .item)
  else if s.mayStartKey then do
    let s ← (s.openAt s.cursor.column .listStart).forget?
    return s.mark .item
  else none

def readKey? (s : Lexing) : Option Lexing :=
  if s.inFlow then some ({ s with candidate? := none, mayStartKey := false }.mark .key)
  else if s.mayStartKey then do
    let s ← (s.openAt s.cursor.column .mapStart).forget?
    return s.mark .key
  else none

def readValue? (s : Lexing) : Option Lexing :=
  match s.candidate? with
  | some k => some ({ s.markKey k with candidate? := none, mayStartKey := false }.mark .value)
  | none =>
    if s.inFlow then some ({ s with mayStartKey := false }.mark .value)
    else if s.mayStartKey then some ((s.openAt s.cursor.column .mapStart).mark .value)
    else none

def pushScalar (plain : Bool) (text : List Char) (s : Lexing) : Lexing :=
  s.push (.scalar plain (String.ofList text.reverse))

def readBlockScalar? (folded : Bool) (s : Lexing) : Option Lexing := do
  let s ← s.forget?
  let (text, cursor) ← readBlock? folded s.inner s.cursor.next
  return { s with cursor, mayStartKey := true }.pushScalar false text

def readPlainScalar? (s : Lexing) : Option Lexing := do
  let s ← s.remember?
  let plain := readPlain s.inFlow s.inner none [] s.cursor s.cursor.rest
  return { s with cursor := plain.stop, mayStartKey := plain.endsLine }.pushScalar true plain.text

def readQuotedScalar (quote : Char) (s : Lexing) : Except Failure Lexing :=
  match s.remember? with
  | none => .error .badDocument
  | some s => do
    let (text, cursor) ← readQuoted quote .word [] s.cursor.next s.cursor.next.rest
    return { s with cursor, mayStartKey := false }.pushScalar false text

def read (ch : Char) (rest : List Char) (s : Lexing) : Except Failure Lexing :=
  let of (s? : Option Lexing) : Except Failure Lexing :=
    match s? with
    | some s => .ok s
    | none => .error .badDocument
  let separates := s.cursor.column == 0 && startsSeparator (ch :: rest)
  if separates && ch == '-' then of (s.readSeparator? .documentStart)
  else if separates && ch == '.' then of (s.readSeparator? .documentEnd)
  else if ch = '[' then of (s.readOpening? .flowListStart)
  else if ch = '{' then of (s.readOpening? .flowMapStart)
  else if ch = ']' then of (s.readClosing? .flowListEnd)
  else if ch = '}' then of (s.readClosing? .flowMapEnd)
  else if ch = ',' then of s.readComma?
  else if ch = '-' && startsGap rest then of s.readItem?
  else if ch = '?' && (s.inFlow || startsGap rest) then of s.readKey?
  else if ch = ':' && (s.inFlow || startsGap rest) then of s.readValue?
  else if ch = '|' && !s.inFlow then of (s.readBlockScalar? false)
  else if ch = '>' && !s.inFlow then of (s.readBlockScalar? true)
  else if ch = '\'' || ch = '"' then s.readQuotedScalar ch
  else if startsPlain s.inFlow (ch :: rest) then of s.readPlainScalar?
  else .error .badDocument

/-- Goes to the next lexeme.  Keys may begin on a new line. -/
def toLexeme? (s : Lexing) : Option Lexing := do
  let cursor := s.cursor.toLexeme
  let newLine := !s.inFlow && cursor.line != s.cursor.line
  let s ← { s with cursor, mayStartKey := s.mayStartKey || newLine }.expireAll?
  return s.closeInner

def finish? (s : Lexing) : Option (List Lexeme) :=
  s.closeAll.forget?.map (fun s => s.lexemes.reverse)

/-- How many lexemes are certain, because no candidate is before them. -/
def certain (s : Lexing) : Nat :=
  let reached := (s.candidate? :: s.outer).filterMap (fun k? => k?.filter (·.reaches s.cursor))
  reached.foldl (fun n k => min n k.number) s.count

def failing (s : Lexing) (e : Failure) : List Lexeme :=
  s.lexemes.reverse.take s.certain ++ [.fault e]

/-- All lexemes with what follows, in which there are at most `fuel` of them. -/
def run : Nat → Lexing → List Lexeme
  | 0, s => s.failing .badDocument
  | fuel + 1, s =>
    match s.toLexeme? with
    | none => s.failing .badDocument
    | some next =>
      match next.cursor.rest with
      | [] => next.finish?.getD (s.failing .badDocument)
      | ch :: rest =>
        match next.read ch rest with
        | .error e => s.failing e
        | .ok next => run fuel next

end Lexing

/-- The lexemes of a document.  Each takes at least one character.  A fault comes after those that
are certain before it is met; the others wait for what they may be keys of. -/
def lexemes (text : List Char) : List Lexeme :=
  if text.all isAllowed then Lexing.run (text.length + 1) { cursor := Cursor.start text }
  else [.fault .badDocument]

end SiteTemplates.Yaml
