/-!
# Places in a document

A document is read from a `Cursor`, which knows the line and the column of what follows it.  Columns
decide how the parts of a document are nested.
-/

namespace SiteTemplates.Yaml

/-! ### Characters -/

def isLineEnd (c : Char) : Bool :=
  c == '\n' || c == '\u0085' || c == '\u2028' || c == '\u2029'

/-- What the end of a line stands for in a text: a line feed, unless it separates lines or
paragraphs by itself. -/
def lineEnd (c : Char) : Char := if c = '\u0085' then '\n' else c

def isSpace (c : Char) : Bool := c == ' ' || c == '\t'

def isGap (c : Char) : Bool := isSpace c || isLineEnd c

def startsGap : List Char → Bool
  | [] => true
  | c :: _ => isGap c

def isAllowed (c : Char) : Bool :=
  let n := c.toNat
  c == '\t' || c == '\n' || (0x20 ≤ n && n ≤ 0x7E) || n == 0x85 || (0xA0 ≤ n && n ≤ 0xD7FF) ||
    (0xE000 ≤ n && n ≤ 0xFFFD) || 0x10000 ≤ n

def byteOrderMark : Char := '\uFEFF'

/-- Whether a line that begins here ends the document, by three hyphens or three points. -/
def startsSeparator : List Char → Bool
  | '-' :: '-' :: '-' :: rest => startsGap rest
  | '.' :: '.' :: '.' :: rest => startsGap rest
  | _ => false

/-! ### Cursors -/

structure Cursor where
  index : Nat
  line : Nat
  column : Nat
  rest : List Char
deriving Repr

namespace Cursor

def next (c : Cursor) : Cursor :=
  match c.rest with
  | [] => c
  | ch :: rest =>
    if isLineEnd ch then ⟨c.index + 1, c.line + 1, 0, rest⟩
    else ⟨c.index + 1, c.line, if ch = byteOrderMark then c.column else c.column + 1, rest⟩

/-- The start of a document, past the mark of the byte order. -/
def start (text : List Char) : Cursor :=
  let c : Cursor := ⟨0, 0, 0, text⟩
  if text.head? = some byteOrderMark then c.next else c

def skip (p : Char → Bool) (c : Cursor) : Cursor :=
  (c.rest.takeWhile p).foldl (fun c _ => c.next) c

def peek? (c : Cursor) : Option Char := c.rest.head?

/-- Goes from a place to the next lexeme, past spaces, comments and the ends of lines. -/
def passGap (inComment : Bool) (c : Cursor) : List Char → Cursor
  | [] => c
  | ch :: rest =>
    if isLineEnd ch then passGap false c.next rest
    else if inComment || ch == ' ' then passGap inComment c.next rest
    else if ch = '#' then passGap true c.next rest
    else c

def toLexeme (c : Cursor) : Cursor := c.passGap false c.rest

/-- Goes past spaces and perhaps a comment to the end of the line, if nothing else is there. -/
def toLineEnd? (c : Cursor) : Option Cursor :=
  let c := c.skip (fun ch => ch == ' ')
  let c := if c.peek? = some '#' then c.skip (fun ch => !isLineEnd ch) else c
  match c.peek? with
  | none => some c
  | some ch => if isLineEnd ch then some c.next else none

end Cursor

end SiteTemplates.Yaml
