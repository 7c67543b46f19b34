import SiteTemplates.Yaml.Cursor

/-!
# Block scalars

A text that is set apart by its indentation, after a mark that says whether its lines are kept or
folded.  A line that begins with a blank is never folded.  After the mark there may be the
indentation and a sign for the line ends after the text: `-` leaves them out, `+` keeps all of them,
and otherwise one is kept.
-/

namespace SiteTemplates.Yaml

/-- What becomes of the line ends after a text. -/
inductive Chomping where
  | strip
  | clip
  | keep
deriving DecidableEq, Repr

def chomping? : Char → Option Chomping
  | '-' => some .strip
  | '+' => some .keep
  | _ => none

def indentation? (c : Char) : Option Nat :=
  if '1' ≤ c ∧ c ≤ '9' then some (c.toNat - '0'.toNat) else none

/-- What stands after the mark of a block scalar, in either order, and where that ends. -/
def Cursor.blockHeader (c : Cursor) : Chomping × Option Nat × Cursor :=
  match c.rest with
  | a :: b :: _ =>
    match chomping? a, indentation? a with
    | some ch, _ =>
      match indentation? b with
      | some n => (ch, some n, c.next.next)
      | none => (ch, none, c.next)
    | none, some n =>
      match chomping? b with
      | some ch => (ch, some n, c.next.next)
      | none => (.clip, some n, c.next)
    | none, none => (.clip, none, c)
  | [a] =>
    match chomping? a, indentation? a with
    | some ch, _ => (ch, none, c.next)
    | none, some n => (.clip, some n, c.next)
    | none, none => (.clip, none, c)
  | [] => (.clip, none, c)

/-- Goes past spaces and empty lines.  The result is the ends of those lines, last first, the
greatest column of all, and the place. -/
def Cursor.emptyLines (widest : Nat) (ends : List Char) (c : Cursor) :
    List Char → List Char × Nat × Cursor
  | [] => (ends, widest, c)
  | ch :: rest =>
    if ch = ' ' then emptyLines (max widest c.next.column) ends c.next rest
    else if isLineEnd ch then emptyLines widest (lineEnd ch :: ends) c.next rest
    else (ends, widest, c)

/-- What lies between two lines of a block scalar: the end of the first one, which may begin with no
blank, and the ends of empty lines after it, last first. -/
structure Ends where
  last? : Option (Char × Bool) := none
  more : List Char := []

/-- The text, last first, that stands between two lines; `even` says whether the second one begins
with no blank. -/
def Ends.between (folded even : Bool) (e : Ends) : List Char :=
  match e.last? with
  | none => e.more
  | some (last, lastEven) =>
    if folded && last == '\n' && lastEven && even then (if e.more.isEmpty then [' '] else e.more)
    else e.more ++ [last]

/-- The text, last first, that stands after the last line. -/
def Ends.after (chomping : Chomping) (e : Ends) : List Char :=
  let last := (e.last?.map Prod.fst).toList
  match chomping with
  | .strip => []
  | .clip => last
  | .keep => e.more ++ last

/-- Reads the lines of a block scalar, which begin at the column `indent`.  Within a line `line?`
says whether that line begins with no blank.  The result is the text, last first, what stands after
it, and the place where the next lexeme may be. -/
def readLines (folded : Bool) (indent : Nat) (line? : Option Bool) (e : Ends) (text : List Char)
    (c : Cursor) : List Char → List Char × Ends × Cursor
  | [] => (text, if line?.isSome then {} else e, c)
  | ch :: rest =>
    match line? with
    | some even =>
      if isLineEnd ch then
        readLines folded indent none ⟨some (lineEnd ch, even), []⟩ text c.next rest
      else readLines folded indent line? e (ch :: text) c.next rest
    | none =>
      if ch = ' ' ∧ c.column < indent then readLines folded indent none e text c.next rest
      else if isLineEnd ch then
        readLines folded indent none ⟨e.last?, lineEnd ch :: e.more⟩ text c.next rest
      else if c.column = indent then
        let even := !isSpace ch
        readLines folded indent (some even) {} (ch :: (e.between folded even ++ text)) c.next rest
      else (text, e, c)

/-- Reads a block scalar after its mark; `inner` is the least column of what is inside the block
around it.  The result is its text, last first, and the place after it. -/
def readBlock? (folded : Bool) (inner : Nat) (c : Cursor) : Option (List Char × Cursor) := do
  let (chomping, width?, c) := c.blockHeader
  if c.peek?.all (fun ch => ch == ' ' || isLineEnd ch) then
    let c ← c.toLineEnd?
    let least := max inner 1
    let (text, e, c) :=
      match width? with
      | some width => readLines folded (least + width - 1) none {} [] c c.rest
      | none =>
        let (ends, widest, c) := c.emptyLines 0 [] c.rest
        readLines folded (max least widest) none ⟨none, ends⟩ [] c c.rest
    return (e.after chomping ++ text, c)
  else none

end SiteTemplates.Yaml
