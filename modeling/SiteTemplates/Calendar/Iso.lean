import SiteTemplates.Calendar.Moment
import SiteTemplates.Number.Power

/-!
# The standard notation of dates and times

`written` writes a date or a moment in the one form that this library writes: the date, a separator,
the time to the second, microseconds where there are any, and the distance from universal time.

`Moment.ofIso?` reads far more: dates with or without dashes, weeks, any one character as separator,
times with or without colons, shorter times, fractions after a point or a comma of which six digits
count, and `Z`.  It is lenient in one respect: before a distance from universal time one character
may follow the time unread.
-/

namespace SiteTemplates

/-! ### Writing -/

/-- The decimal digits of a number, with zeros in front up to a width. -/
def padded (width n : Nat) : List Char :=
  let digits := Nat.toDigits 10 n
  List.replicate (width - digits.length) '0' ++ digits

def writtenFraction (micro : Nat) : List Char := if micro = 0 then [] else '.' :: padded 6 micro

namespace Date

def written (d : Date) : List Char :=
  padded 4 d.year ++ '-' :: padded 2 d.month ++ '-' :: padded 2 d.day

end Date

namespace TimeOfDay

def written (t : TimeOfDay) : List Char :=
  padded 2 t.hour ++ ':' :: padded 2 t.minute ++ ':' :: padded 2 t.second ++ writtenFraction t.micro

end TimeOfDay

namespace Offset

/-- The distance as sign, hours and minutes, with seconds and their fraction where there are any. -/
def writtenWith (separator : List Char) (o : Offset) : List Char :=
  let n := o.micros.natAbs
  let seconds := n / 1000000 % 60
  let micro := n % 1000000
  (if o.micros < 0 then '-' else '+') :: padded 2 (n / 3600000000) ++ separator ++
    padded 2 (n / 60000000 % 60) ++
    (if seconds = 0 ∧ micro = 0 then [] else separator ++ padded 2 seconds ++ writtenFraction micro)

def written (o : Offset) : List Char := o.writtenWith [':']

end Offset

namespace Moment

def writtenWith (separator : Char) (m : Moment) : List Char :=
  m.date.written ++ separator :: m.time.written ++ (m.offset.map Offset.written).getD []

def written (m : Moment) : List Char := m.writtenWith 'T'

end Moment

/-! ### Reading -/

def plainDigit? (c : Char) : Option Nat :=
  if '0' ≤ c ∧ c ≤ '9' then some (c.toNat - 48) else none

def isPlainDigit (c : Char) : Bool := (plainDigit? c).isSome

def digits? : Nat → Nat → List Char → Option (Nat × List Char)
  | 0, v, s => some (v, s)
  | n + 1, v, c :: s =>
    match plainDigit? c with
    | some d => digits? n (10 * v + d) s
    | none => none
  | _ + 1, _, [] => none

/-- How many characters of a moment belong to its date.  What may follow a date is free, so this
hangs on the form: a week without a day is told from one with a day by what comes after it, and
after a week without dashes by how many digits come. -/
def dateLength (s : List Char) : Nat :=
  let isAt (i : Nat) (p : Char → Bool) : Bool := (s[i]?.map p).getD false
  if s.length = 7 then 7
  else if isAt 4 (· == '-') then
    if isAt 5 (· == 'W') then
      if isAt 8 (· == '-') then (if isAt 10 isPlainDigit then 8 else 10) else 8
    else 10
  else if isAt 4 (· == 'W') then
    let n := 7 + ((s.drop 7).takeWhile isPlainDigit).length
    if n < 9 then n else if n % 2 = 0 then 7 else 8
  else 8

def dash? (dashed : Bool) (s : List Char) : Option (List Char) :=
  if dashed then
    match s with
    | '-' :: rest => some rest
    | _ => none
  else some s

namespace Date

/-- Reads a date, as year, month and day or as a week with or without its day. -/
def ofIso? (s : List Char) : Option Date :=
  match digits? 4 0 s with
  | none => none
  | some (year, s) =>
    let dashed := s.head? == some '-'
    match (if dashed then s.drop 1 else s) with
    | 'W' :: s => do
      let (week, s) ← digits? 2 0 s
      if s.isEmpty then ofWeek? year week 1
      else
        let (day, _) ← digits? 1 0 (← dash? dashed s)
        ofWeek? year week day
    | s => do
      let (month, s) ← digits? 2 0 s
      let (day, _) ← digits? 2 0 (← dash? dashed s)
      ofFields? year month day

end Date

/-- The numbers of a time that was read, and whether nothing was left unread. -/
structure ClockReading where
  fields : List Nat
  micro : Nat
  complete : Bool

def endsHere (s : List Char) : Bool := s.isEmpty || s.head? == some '\x00'

/-- Reads the digits of a fraction, of which six count. -/
def fraction? (s : List Char) : Option ClockReading :=
  let n := min 6 s.length
  (digits? n 0 s).map (fun (v, rest) =>
    ⟨[], v * tenTo (6 - n), endsHere (rest.dropWhile isPlainDigit)⟩)

/-- Reads at most so many fields of two digits and then a fraction.  Whether colons divide the
fields shows after the first one; with colons, a colon also divides off the fraction, and without
them nothing need do so. -/
def clockFields? : Nat → Option Bool → List Char → Option ClockReading
  | 0, _, s => fraction? s
  | n + 1, colons, s =>
    match digits? 2 0 s with
    | none => none
    | some (v, []) => some ⟨[v], 0, true⟩
    | some (v, [c]) => some ⟨[v], 0, c == '\x00'⟩
    | some (v, c :: rest) =>
      let colons := colons.getD (c == ':')
      let next :=
        if colons && c == ':' then clockFields? n (some colons) rest
        else if c == '.' || c == ',' then fraction? rest
        else if colons then none
        else clockFields? n (some colons) (c :: rest)
      next.map (fun r => { r with fields := v :: r.fields })

def beginsOffset (c : Char) : Bool := c == '+' || c == '-' || c == 'Z'

namespace Offset

/-- Reads a distance from universal time after its sign.  One of no whole second is none at all. -/
def ofIso? (negative : Bool) (s : List Char) : Option Offset :=
  match clockFields? 3 none s with
  | some ⟨fields, micro, true⟩ =>
    let seconds := fields.getD 0 0 * 3600 + fields.getD 1 0 * 60 + fields.getD 2 0
    if seconds = 0 then some utc
    else
      let n : Int := (seconds * 1000000 + micro : Nat)
      ofMicros? (if negative then -n else n)
  | _ => none

end Offset

namespace TimeOfDay

def ofReading? (r : ClockReading) : Option TimeOfDay :=
  ofFields? (r.fields.getD 0 0) (r.fields.getD 1 0) (r.fields.getD 2 0) r.micro

/-- Reads a time and, where it is given, the distance from universal time. -/
def ofIso? (s : List Char) : Option (TimeOfDay × Option Offset) :=
  match clockFields? 3 none (s.takeWhile (!beginsOffset ·)) with
  | none => none
  | some r =>
    match s.dropWhile (!beginsOffset ·) with
    | [] => if r.complete then (ofReading? r).map (fun t => (t, none)) else none
    | sign :: rest => do
      let offset ←
        if sign = 'Z' then (if endsHere rest then some Offset.utc else none)
        else Offset.ofIso? (sign == '-') rest
      let time ← ofReading? r
      some (time, some offset)

end TimeOfDay

/-- Writes a character that is not plain as often as it has bytes, since lengths count bytes. -/
def widened (s : List Char) : List Char :=
  s.flatMap (fun c => if c.toNat < 128 then [c] else List.replicate c.utf8Size '\ufffd')

namespace Moment

/-- Reads a moment.  A date alone is the start of its day. -/
def ofIso? (s : List Char) : Option Moment :=
  let n := dateLength s
  match Date.ofIso? (s.take n) with
  | none => none
  | some date =>
    match s.drop n with
    | [] => some (ofDate date)
    | _ :: time => (TimeOfDay.ofIso? (widened time)).map (fun (t, o) => ⟨date, t, o⟩)

end Moment

end SiteTemplates
