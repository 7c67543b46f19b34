import SiteTemplates.Number.Integer
import SiteTemplates.Text.Split
import SiteTemplates.Value.Basic
import SiteTemplates.Yaml.Quoted

/-!
# What plain scalars mean

A scalar in quotes is text.  A plain one is a truth value, a number, nothing, a date or a moment if
it is written like one, and text otherwise.  Numbers may hold low lines between their digits.  Both
kinds of numbers can be written in base 60, with colons.
-/

namespace SiteTemplates.Yaml

open Text
open Binary (plainNumber)

/-! ### Words -/

def wordsForTrue : List String := ["yes", "Yes", "YES", "true", "True", "TRUE", "on", "On", "ON"]

def wordsForFalse : List String :=
  ["no", "No", "NO", "false", "False", "FALSE", "off", "Off", "OFF"]

def wordsForNothing : List String := ["", "~", "null", "Null", "NULL"]

def truth? (s : String) : Option Bool :=
  if wordsForTrue.contains s then some true
  else if wordsForFalse.contains s then some false
  else none

/-! ### Numbers -/

def isDigits (base : Nat) (s : List Char) : Bool :=
  !s.isEmpty && s.all (fun c => c == '_' || (hexDigit? c).any (fun d => d < base))

def isNumeral (s : List Char) : Bool := s.head?.any isPlainDigit && isDigits 10 s

def isSixtieth (s : List Char) : Bool :=
  match s with
  | [c] => isPlainDigit c
  | [c, d] => '0' ≤ c && c ≤ '5' && isPlainDigit d
  | _ => false

def withoutLowLines (s : List Char) : List Char := s.filter (fun c => c != '_')

/-- Whether a number is negative, and the rest of it after the sign. -/
def signed (s : List Char) : Bool × List Char :=
  match s with
  | '-' :: rest => (true, rest)
  | '+' :: rest => (false, rest)
  | _ => (false, s)

/-- The value of digits of a base.  There has to be one. -/
def valueOf (base : Nat) (s : List Char) : Except Failure Nat :=
  match withoutLowLines s with
  | [] => .error .badNumber
  | digits => .ok (digits.foldl (fun n c => base * n + (hexDigit? c).getD 0) 0)

/-- The value of decimal digits, of which there may not be too many. -/
def decimalOf (s : List Char) : Except Failure Nat :=
  let digits := withoutLowLines s
  if digits.length ≤ maxDigits then .ok (plainNumber digits) else .error .badNumber

/-- The value of an integer without its sign, if the scalar is written like one. -/
def natural? (s : List Char) : Option (Except Failure Nat) :=
  match s with
  | ['0'] => some (.ok 0)
  | '0' :: 'b' :: digits => if isDigits 2 digits then some (valueOf 2 digits) else none
  | '0' :: 'x' :: digits => if isDigits 16 digits then some (valueOf 16 digits) else none
  | '0' :: digits => if isDigits 8 digits then some (valueOf 8 s) else none
  | _ =>
    match splitAll ':' s with
    | first :: parts =>
      if isNumeral first && parts.all isSixtieth then
        some ((decimalOf first).map
          (fun n => parts.foldl (fun n part => 60 * n + plainNumber part) n))
      else none
    | [] => none

def integer? (s : List Char) : Option (Except Failure Value) :=
  let (negative, rest) := signed s
  (natural? rest).map (fun n => n.map (fun n => .int (if negative then -n else n)))

/-- Whether a text is an exponent with its letter and its sign. -/
def isExponent (s : List Char) : Bool :=
  match s with
  | c :: sign :: digits =>
    (c == 'e' || c == 'E') && (sign == '-' || sign == '+') && !digits.isEmpty &&
      digits.all isPlainDigit
  | _ => false

/-- Whether a text goes on like a number with a point, after the point. -/
def isFraction (s : List Char) : Bool :=
  let rest := s.dropWhile (fun c => c == '_' || isPlainDigit c)
  rest.isEmpty || isExponent rest

/-- The number that parts in base 60 make, the last of which holds a point.  Every step is rounded,
and so is the weight of each part. -/
def sexagesimal? (parts : List (List Char)) : Option Binary :=
  let weigh (part : List Char) (weight sum : Nat) : Option Nat := do
    let x ← (Binary.ofUnsigned? false (withoutLowLines part)).bind Binary.units?
    let w ← (Binary.ofRatio false weight 1).units?
    let product ← (Binary.ofRatio false (x * w) (twoTo 2148)).units?
    (Binary.ofRatio false (sum + product) (twoTo 1074)).units?
  let rec go (weight sum : Nat) : List (List Char) → Option Nat
    | [] => some sum
    | part :: rest => (weigh part weight sum).bind (fun sum => go (60 * weight) sum rest)
  (go 1 0 parts.reverse).map (fun sum => Binary.ofRatio false sum (twoTo 1074))

/-- The number with a point that a scalar without sign stands for. -/
def unsignedReal? (negative : Bool) (s : List Char) : Option (Except Failure Value) :=
  let whole := s.takeWhile (fun c => c != '.')
  match s.dropWhile (fun c => c != '.') with
  | '.' :: fraction =>
    match splitAll ':' whole with
    | [first] =>
      if isNumeral first && isFraction fraction then
        (Binary.ofUnsigned? negative (withoutLowLines s)).map (fun x => .ok (.real x))
      else none
    | first :: parts =>
      if isNumeral first && parts.all isSixtieth &&
          fraction.all (fun c => c == '_' || isPlainDigit c) then
        match sexagesimal? (splitAll ':' s) with
        | some x => some (.ok (.real (if negative then x.opposite else x)))
        | none => some (.error .outOfRange)
      else none
    | [] => none
  | _ => none

def real? (s : List Char) : Option (Except Failure Value) :=
  let (negative, rest) := signed s
  if [".inf", ".Inf", ".INF"].contains (String.ofList rest) then
    some (.ok (.real (.infinite negative)))
  else if [".nan", ".NaN", ".NAN"].contains (String.ofList s) then some (.ok (.real .notNumber))
  else
    match s with
    | '.' :: fraction =>
      if fraction.head?.any isPlainDigit && isFraction fraction then
        (Binary.ofUnsigned? false (withoutLowLines s)).map (fun x => .ok (.real x))
      else none
    | _ => unsignedReal? negative rest

/-! ### Dates and moments -/

def field? (least most : Nat) (s : List Char) : Option (Nat × List Char) :=
  let digits := s.takeWhile isPlainDigit
  if least ≤ digits.length ∧ digits.length ≤ most then
    some (plainNumber digits, s.drop digits.length)
  else none

def pass? (c : Char) (s : List Char) : Option (List Char) :=
  match s with
  | d :: rest => if c = d then some rest else none
  | [] => none

/-- Reads three numbers with a separator, where the first has `firstWidth` digits at least and at
most and the others have the widths of `width`. -/
def fields? (separator : Char) (firstWidth width : Nat × Nat) (s : List Char) :
    Option (Nat × Nat × Nat × List Char) := do
  let (a, s) ← field? firstWidth.1 firstWidth.2 s
  let (b, s) ← field? width.1 width.2 (← pass? separator s)
  let (c, s) ← field? width.1 width.2 (← pass? separator s)
  return (a, b, c, s)

/-- Reads the fraction of a second, in microseconds; digits after the sixth are left out. -/
def micros (s : List Char) : Nat × List Char :=
  match s with
  | '.' :: rest =>
    let digits := rest.takeWhile isPlainDigit
    let counted := digits.take 6
    (plainNumber counted * tenTo (6 - counted.length), rest.drop digits.length)
  | _ => (0, s)

/-- Reads what follows a time: nothing, or the distance from universal time in minutes. -/
def minutesAhead? (s : List Char) : Option (Option Int) :=
  if s.isEmpty then some none
  else
    match s.dropWhile isSpace with
    | ['Z'] => some (some 0)
    | sign :: rest =>
      if sign = '-' ∨ sign = '+' then do
        let (hours, rest) ← field? 1 2 rest
        let (minutes, rest) ←
          match rest with
          | ':' :: rest => field? 2 2 rest
          | _ => some (0, rest)
        let total : Int := hours * 60 + minutes
        if rest.isEmpty then return some (if sign = '-' then -total else total) else none
      else none
    | [] => none

def date? (s : List Char) : Option (Except Failure Value) := do
  let (year, month, day, rest) ← fields? '-' (4, 4) (2, 2) s
  if rest.isEmpty then
    return match Date.ofFields? year month day with
      | some d => .ok (.date d)
      | none => .error .badNumber
  else none

def passToTime? (s : List Char) : Option (List Char) :=
  match s with
  | c :: rest =>
    if c = 'T' ∨ c = 't' then some rest
    else if isSpace c then some (rest.dropWhile isSpace)
    else none
  | [] => none

def moment? (s : List Char) : Option (Except Failure Value) := do
  let (year, month, day, rest) ← fields? '-' (4, 4) (1, 2) s
  let (hour, minute, second, rest) ← fields? ':' (1, 2) (2, 2) (← passToTime? rest)
  let (micro, rest) := micros rest
  let ahead? ← minutesAhead? rest
  let moment? : Option Moment := do
    let offset ← ahead?.mapM (fun minutes => Offset.ofMicros? (minutes * 60000000))
    return ⟨← Date.ofFields? year month day, ← TimeOfDay.ofFields? hour minute second micro, offset⟩
  return match moment? with
    | some m => .ok (.moment m)
    | none => .error .badNumber

/-! ### Scalars -/

/-- The value of a plain scalar.  The sign of equality and the mark of a merge have none. -/
def plainValue (s : String) : Except Failure Value :=
  let cs := s.toList
  match truth? s with
  | some b => .ok (.bool b)
  | none =>
    match real? cs <|> integer? cs <|> date? cs <|> moment? cs with
    | some value => value
    | none =>
      if wordsForNothing.contains s then .ok .null
      else if s = "=" ∨ s = "<<" then .error .badDocument
      else .ok (.text s)

end SiteTemplates.Yaml
