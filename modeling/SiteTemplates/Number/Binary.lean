import SiteTemplates.Calendar.Iso

/-!
# Binary floating point

Numbers with 53 significant bits, the largest below 2 ^ 1024 and the smallest positive one 2 ^
-1074.  Every finite one is a natural number of units of 2 ^ -1074: its significand times a power of
two.  `Binary.ofRatio` rounds a ratio to the nearest of them, and of two that are equally near takes
the one with the even significand.  All is exact arithmetic on natural numbers.
-/

namespace SiteTemplates

/-- A binary floating-point number.  The finite ones are `significand * 2 ^ exponent / 2 ^ 1074` and
the opposites of these. -/
inductive Binary where
  | finite (negative : Bool) (significand exponent : Nat)
  | infinite (negative : Bool)
  | notNumber
deriving DecidableEq, Repr

namespace Binary

/-- The quotient, rounded to the nearest integer, and to the even one of two. -/
def roundQuotient (num den : Nat) : Nat :=
  let q := num / den
  let rest := 2 * (num % den)
  if rest < den then q else if den < rest then q + 1 else q + q % 2

def ofRatio (negative : Bool) (num den : Nat) : Binary :=
  let units := num * twoTo 1074
  let whole := units / den
  let exponent := (if whole = 0 then 0 else Nat.log2 whole + 1) - 53
  let significand := roundQuotient units (den * twoTo exponent)
  let (significand, exponent) :=
    if significand = twoTo 53 then (twoTo 52, exponent + 1) else (significand, exponent)
  if 2045 < exponent then infinite negative else finite negative significand exponent

/-- The number nearest to `digits * 10 ^ exponent`, or to its opposite.  Exponents that decide by
themselves are not multiplied out. -/
def ofDecimal (negative : Bool) (digits : Nat) (exponent : Int) : Binary :=
  let size : Int := (Nat.toDigits 10 digits).length + exponent
  if digits = 0 ∨ size < -330 then finite negative 0 0
  else if 320 < size then infinite negative
  else if exponent < 0 then ofRatio negative digits (tenTo exponent.natAbs)
  else ofRatio negative (digits * tenTo exponent.natAbs) 1

def isZero : Binary → Bool
  | finite _ significand _ => significand == 0
  | _ => false

def units? : Binary → Option Nat
  | finite _ significand exponent => some (significand * twoTo exponent)
  | _ => none

def opposite : Binary → Binary
  | finite negative significand exponent => finite (!negative) significand exponent
  | infinite negative => infinite (!negative)
  | notNumber => notNumber

/-- The integer next to a finite number on the side of zero. -/
def truncated? : Binary → Option Int
  | finite negative significand exponent =>
    let n : Int := (significand * twoTo exponent / twoTo 1074 : Nat)
    some (if negative then -n else n)
  | _ => none

def integer? (x : Binary) : Option Int :=
  match x with
  | finite _ significand exponent =>
    if significand * twoTo exponent % twoTo 1074 = 0 then x.truncated? else none
  | _ => none

/-- Whether two numbers are equal.  Zero has two forms, and what is not a number equals nothing. -/
def same : Binary → Binary → Bool
  | finite n s e, finite n' s' e' => (s == 0 && s' == 0) || (n == n' && s == s' && e == e')
  | infinite n, infinite n' => n == n'
  | _, _ => false

/-! ### Reading -/

def plainNumber (s : List Char) : Nat := s.foldl (fun n c => 10 * n + (plainDigit? c).getD 0) 0

def exponent? (s : List Char) : Option Int :=
  let (negative, digits) :=
    match s with
    | '-' :: rest => (true, rest)
    | '+' :: rest => (false, rest)
    | _ => (false, s)
  if digits.isEmpty || !digits.all isPlainDigit then none
  else
    let n : Int := plainNumber digits
    some (if negative then -n else n)

/-- Reads a number in decimal notation without sign: digits, perhaps with a point among them, and
perhaps an exponent. -/
def ofUnsigned? (negative : Bool) (s : List Char) : Option Binary :=
  let whole := s.takeWhile isPlainDigit
  let s := s.dropWhile isPlainDigit
  let (fraction, s) :=
    match s with
    | '.' :: rest => (rest.takeWhile isPlainDigit, rest.dropWhile isPlainDigit)
    | _ => ([], s)
  if whole.isEmpty && fraction.isEmpty then none
  else
    let value (exponent : Int) : Binary :=
      ofDecimal negative (plainNumber (whole ++ fraction)) (exponent - fraction.length)
    match s with
    | [] => some (value 0)
    | c :: rest => if c = 'e' ∨ c = 'E' then (exponent? rest).map value else none

/-- Reads a number in decimal notation, or one of the words `inf` and `nan`. -/
def ofText? (s : List Char) : Option Binary :=
  let (negative, s) :=
    match s with
    | '-' :: rest => (true, rest)
    | '+' :: rest => (false, rest)
    | _ => (false, s)
  if s = "inf".toList then some (infinite negative)
  else if s = "nan".toList then some notNumber
  else ofUnsigned? negative s

end Binary

end SiteTemplates
