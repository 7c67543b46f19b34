import SiteTemplates.Number.Binary

/-!
# The shortest decimal text of a number

`Binary.written` writes the fewest digits that are read back as the same number, and of those the
nearest to it.  The reals that are read back as a given number form an interval around it, with its
ends if the significand is even.  For 1, 2, 3 and more digits the two neighbours of the number on
the decimal grid of so many digits are tried; seventeen digits are always enough.
-/

namespace SiteTemplates

namespace Binary

/-- A positive number and the ends of the interval that is read back as it, all over `den`; the ends
belong to it if it is `closed`. -/
structure Interval where
  low : Nat
  mid : Nat
  high : Nat
  den : Nat
  closed : Bool

/-- The interval of a number with a positive significand.  The gap below a power of two is half the
gap above it. -/
def interval (significand exponent : Nat) : Interval where
  low := significand * twoTo (exponent + 2) -
    (if significand = twoTo 52 ∧ 0 < exponent then twoTo exponent else twoTo (exponent + 1))
  mid := significand * twoTo (exponent + 2)
  high := significand * twoTo (exponent + 2) + twoTo (exponent + 1)
  den := twoTo 1076
  closed := significand % 2 == 0

def Interval.inUnits (i : Interval) (place : Int) : Interval :=
  if place < 0 then
    let f := tenTo place.natAbs
    ⟨i.low * f, i.mid * f, i.high * f, i.den, i.closed⟩
  else ⟨i.low, i.mid, i.high, i.den * tenTo place.natAbs, i.closed⟩

def Interval.holds (i : Interval) (n : Nat) : Bool :=
  if i.closed then i.low ≤ n * i.den && n * i.den ≤ i.high
  else i.low < n * i.den && n * i.den < i.high

/-- The integer in the interval that is nearest to the number, among its two neighbours. -/
def Interval.nearest? (i : Interval) : Option Nat :=
  let n := i.mid / i.den
  match i.holds n, i.holds (n + 1) with
  | false, false => none
  | true, false => some n
  | false, true => some (n + 1)
  | true, true => some (roundQuotient i.mid i.den)

/-- The place of the first digit of a number: its decimal logarithm, rounded down. -/
def Interval.firstPlace (i : Interval) : Int :=
  (Nat.toDigits 10 (i.mid * tenTo 400 / i.den)).length - 401

/-- The first grid that hits the interval, and the point of it, as a number of units of a power of
ten.  The search goes through `n` grids, from the one whose last place is `place`. -/
def Interval.search (i : Interval) (place : Int) : Nat → Nat × Int
  | 0 => (i.mid / i.den, 0)
  | n + 1 =>
    match (i.inUnits place).nearest? with
    | some digits => (digits, place)
    | none => i.search (place - 1) n

/-- The digits of the shortest decimal, and where the point stands before or after the first one. -/
def shortest (significand exponent : Nat) : List Char × Int :=
  let i := interval significand exponent
  let (n, place) := i.search i.firstPlace 17
  let digits := Nat.toDigits 10 n
  ((digits.reverse.dropWhile (· == '0')).reverse, digits.length + place)

def writtenExponent (n : Int) : List Char :=
  'e' :: (if n < 0 then '-' else '+') :: padded 2 n.natAbs

/-- Digits with a point: in positional notation as long as the first digit stands at most sixteen
places before the point and at most four places after it, else with an exponent. -/
def pointed (digits : List Char) (point : Int) : List Char :=
  if point ≤ -4 ∨ 16 < point then
    digits.take 1 ++ (if digits.length = 1 then [] else '.' :: digits.drop 1) ++
      writtenExponent (point - 1)
  else if point ≤ 0 then '0' :: '.' :: (List.replicate point.natAbs '0' ++ digits)
  else
    let n := point.natAbs
    let whole := digits.take n ++ List.replicate (n - digits.length) '0'
    whole ++ '.' :: (if digits.length ≤ n then ['0'] else digits.drop n)

def written : Binary → String
  | finite negative significand exponent =>
    let s :=
      if significand = 0 then ['0', '.', '0']
      else
        let (digits, point) := shortest significand exponent
        pointed digits point
    String.ofList (if negative then '-' :: s else s)
  | infinite negative => if negative then "-inf" else "inf"
  | notNumber => "nan"

end Binary

end SiteTemplates
