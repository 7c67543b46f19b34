import SiteTemplates.Failure
import SiteTemplates.Text.Digit
import SiteTemplates.Yaml.Fold

/-!
# Quoted scalars

A scalar in quotes goes on over lines, which are folded.  In single quotes a quote is written twice;
in double quotes a backslash begins an escape, and one at the end of a line joins it to the next
without a space.
-/

namespace SiteTemplates.Yaml

open Text (hexDigit?)

/-- The character that a letter after a backslash stands for. -/
def escape? : Char → Option Char
  | '0' => some '\x00'
  | 'a' => some '\x07'
  | 'b' => some '\x08'
  | 't' => some '\t'
  | '\t' => some '\t'
  | 'n' => some '\n'
  | 'v' => some '\x0B'
  | 'f' => some '\x0C'
  | 'r' => some '\r'
  | 'e' => some '\x1B'
  | ' ' => some ' '
  | '"' => some '"'
  | '\\' => some '\\'
  | '/' => some '/'
  | 'N' => some '\u0085'
  | '_' => some '\u00A0'
  | 'L' => some '\u2028'
  | 'P' => some '\u2029'
  | _ => none

/-- How many digits follow a letter that gives a character by its number. -/
def numberWidth? : Char → Option Nat
  | 'x' => some 2
  | 'u' => some 4
  | 'U' => some 8
  | _ => none

def numbered? (n : Nat) : Except Failure Char :=
  if h : n.isValidChar then .ok (Char.ofNatAux n h)
  else if n < 0x110000 then .error .notText
  else if n < 0x80000000 then .error .badNumber
  else .error .outOfRange

/-- How the reading of a quoted scalar stands: after a character that counts, a quote that is the
end unless it is written twice, a backslash or a gap, after the end of a line that does not count,
or within the number of a character, with the digits to come. -/
inductive Quoting where
  | word
  | quote
  | escape
  | number (digits n : Nat)
  | gap (g : Gap)
  | joined (more : List Char)
deriving Repr

/-- The text, last first, that a gap stands for before something else than a gap. -/
def Quoting.folded : Quoting → List Char
  | .gap g => g.folded
  | .joined more => more
  | _ => []

/-- Whether a reading stands at the start of a line, blanks aside. -/
def Quoting.endsLine : Quoting → Bool
  | .gap g => g.endsLine
  | .joined _ => true
  | _ => false

/-- What a gap becomes with one more character of a gap. -/
def Quoting.widened (ch : Char) : Quoting → Quoting
  | .gap (.spaces s) =>
    if isLineEnd ch then .gap (.lines (lineEnd ch) []) else .gap (.spaces (ch :: s))
  | .gap (.lines first more) =>
    .gap (.lines first (if isLineEnd ch then lineEnd ch :: more else more))
  | .joined more => .joined (if isLineEnd ch then lineEnd ch :: more else more)
  | _ => if isLineEnd ch then .gap (.lines (lineEnd ch) []) else .gap (.spaces [ch])

/-- Reads a quoted scalar after its opening quote.  The result is its text, last first, and the
place after its closing quote. -/
def readQuoted (quote : Char) (state : Quoting) (text : List Char) (c : Cursor) :
    List Char → Except Failure (List Char × Cursor)
  | [] => if state matches .quote then .ok (text, c) else .error .badDocument
  | ch :: rest =>
    match state with
    | .quote =>
      if ch = quote then readQuoted quote .word (ch :: text) c.next rest else .ok (text, c)
    | .escape =>
      match escape? ch with
      | some e => readQuoted quote .word (e :: text) c.next rest
      | none =>
        match numberWidth? ch with
        | some width => readQuoted quote (.number width 0) text c.next rest
        | none =>
          if isLineEnd ch then readQuoted quote (.joined []) text c.next rest
          else .error .badDocument
    | .number digits n =>
      match hexDigit? ch with
      | none => .error .badDocument
      | some d =>
        if digits ≤ 1 then do
          let e ← numbered? (16 * n + d)
          readQuoted quote .word (e :: text) c.next rest
        else readQuoted quote (.number (digits - 1) (16 * n + d)) text c.next rest
    | state =>
      if state.endsLine && c.column == 0 && startsSeparator (ch :: rest) then .error .badDocument
      else if isGap ch then readQuoted quote (state.widened ch) text c.next rest
      else
        let text := state.folded ++ text
        if ch = quote then
          if quote = '"' then .ok (text, c.next) else readQuoted quote .quote text c.next rest
        else if quote = '"' && ch == '\\' then readQuoted quote .escape text c.next rest
        else readQuoted quote .word (ch :: text) c.next rest

end SiteTemplates.Yaml
