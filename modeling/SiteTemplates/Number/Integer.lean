import SiteTemplates.Number.Power
import SiteTemplates.Text.Blank
import SiteTemplates.Text.Digit

/-!
# Integers as text

An integer is read from the decimal digits of any script, with a sign, with blanks around it and
with single low lines between digits.  It is written in plain digits.  Both ways it may have at most
`maxDigits` digits; zeros in front count.
-/

namespace SiteTemplates

open Text

def maxDigits : Nat := 4300

/-- Whether a character may surround an integer: any blank but the controls U+001C to U+001F. -/
def surroundsInteger (c : Char) : Bool := isBlank c && !(28 ≤ c.toNat && c.toNat ≤ 31)

/-- The values of digits with single low lines between them, after those in `done` (last first);
`afterDigit` says whether a low line or the end may follow. -/
def digitValues? (afterDigit : Bool) (done : List Nat) : List Char → Option (List Nat)
  | [] => if afterDigit then some done.reverse else none
  | c :: rest =>
    if c = '_' then (if afterDigit then digitValues? false done rest else none)
    else
      match decimal? c with
      | some d => digitValues? true (d :: done) rest
      | none => none

/-- Reads a natural number of at most `maxDigits` digits. -/
def readNatural? (s : List Char) : Option Nat :=
  match digitValues? false [] s with
  | some ds => if ds.length ≤ maxDigits then some (ds.foldl (fun n d => 10 * n + d) 0) else none
  | none => none

/-- Reads a natural number after its sign, if there is one. -/
def readSigned? : List Char → Option Int
  | '-' :: rest => (readNatural? rest).map (fun n => -(n : Int))
  | '+' :: rest => (readNatural? rest).map (fun n => (n : Int))
  | s => (readNatural? s).map (fun n => (n : Int))

def readInteger? (s : List Char) : Option Int :=
  readSigned? ((s.dropWhile surroundsInteger).reverse.dropWhile surroundsInteger).reverse

def writeInteger? (n : Int) : Option String :=
  if n.natAbs < tenTo maxDigits then some (toString n) else none

end SiteTemplates
