import SiteTemplates.Calendar.Iso
import SiteTemplates.Text.Case

/-!
# Date patterns

A pattern is text with directives in it: a percent sign, flags, a width, perhaps `E` or `O`, and a
letter that says what to write.  `Moment.format` writes a moment by a pattern, with English names.

The flags choose how a number is filled up to its width (`_` with spaces, `0` with zeros, `-` not at
all) and the case of names (`^` upper case, `#` the other case).  A directive that means nothing is
written as it stands.  Three directives come first and take no flags: the fraction of the second,
the distance from universal time, and the name of the clock.  The last two are empty for a moment on
the local clock.

The written text has to fit a buffer whose size grows with the pattern; a text that does not fit is
empty.
-/

namespace SiteTemplates

def weekdayNames : List String :=
  ["Sunday", "Monday", "Tuesday", "Wednesday", "Thursday", "Friday", "Saturday"]

def monthNames : List String :=
  ["January", "February", "March", "April", "May", "June", "July", "August", "September", "October",
    "November", "December"]

namespace Date

def weekdayName (d : Date) : List Char := (weekdayNames.getD d.weekday "").toList

def monthName (d : Date) : List Char := (monthNames.getD (d.month - 1) "").toList

end Date

/-- The name that the clock has, or one that is made of its distance from universal time. -/
def Offset.shownName (o : Offset) : List Char :=
  match o.name with
  | some name => name.toList
  | none => "UTC".toList ++ (if o.micros = 0 then [] else o.written)

namespace Moment

/-! ### What comes first -/

def plainOffset (m : Moment) : List Char := (m.offset.map (Offset.writtenWith [])).getD []

def clockName (m : Moment) : List Char :=
  ((m.offset.map Offset.shownName).getD []).flatMap (fun c => if c = '%' then ['%', '%'] else [c])

/-- Fills in the fraction, the distance from universal time and the name of the clock.  A null
character ends the pattern. -/
def fillIn (m : Moment) : List Char → List Char
  | [] => []
  | '\x00' :: _ => []
  | '%' :: c :: rest =>
    if c = '\x00' then ['%']
    else if c = 'z' then m.plainOffset ++ fillIn m rest
    else if c = 'Z' then m.clockName ++ fillIn m rest
    else if c = 'f' then padded 6 m.time.micro ++ fillIn m rest
    else '%' :: c :: fillIn m rest
  | c :: rest => c :: fillIn m rest

end Moment

/-! ### Directives -/

/-- How a directive fills and changes what it writes. -/
structure Layout where
  filling : Option Char
  upper : Bool
  swapped : Bool
  width : Nat

def plainUpper (s : List Char) : List Char := s.map Text.singleUpper

def plainLower (s : List Char) : List Char := s.map Char.toLower

namespace Layout

def fill (l : Layout) (s : List Char) : List Char :=
  List.replicate (l.width - s.length) (if l.filling = some '0' then '0' else ' ') ++ s

def name (l : Layout) (s : List Char) : List Char :=
  l.fill (if l.upper || l.swapped then plainUpper s else s)

def half (l : Layout) (lower : Bool) (s : List Char) : List Char :=
  l.fill (if lower || l.swapped then plainLower s else if l.upper then plainUpper s else s)

def composed (l : Layout) (s : List Char) : List Char :=
  let filled := l.fill s
  if l.upper then plainUpper filled else filled

/-- A number of at least so many digits, filled with zeros unless a flag says otherwise. -/
def number (l : Layout) (digits n : Nat) : List Char :=
  let s := Nat.toDigits 10 n
  let missing := max digits l.width - s.length
  if l.filling = some '-' then l.fill s
  else List.replicate missing (if l.filling = some '_' then ' ' else '0') ++ s

/-- A number that is filled with spaces unless a flag says otherwise. -/
def spaced (l : Layout) (digits n : Nat) : List Char :=
  let filling := if l.filling = some '0' ∨ l.filling = some '-' then l.filling else some '_'
  number { l with filling } digits n

end Layout

namespace Moment

def hour12 (m : Moment) : Nat := if m.time.hour % 12 = 0 then 12 else m.time.hour % 12

def halfOfDay (m : Moment) : List Char := if m.time.hour < 12 then ['A', 'M'] else ['P', 'M']

def epochSeconds (m : Moment) : List Char :=
  (toString (((m.clock / 1000000 : Nat) : Int) - 62135596800)).toList

def shortDate (m : Moment) : List Char :=
  padded 2 m.date.month ++ '/' :: padded 2 m.date.day ++ '/' :: padded 2 (m.date.year % 100)

def shortTime (m : Moment) : List Char := padded 2 m.time.hour ++ ':' :: padded 2 m.time.minute

def fullTime (m : Moment) : List Char := m.shortTime ++ ':' :: padded 2 m.time.second

/-- The number of the week when weeks begin on a given weekday and the days before the first whole
one belong to week zero. -/
def weekFrom (m : Moment) (firstDay : Nat) : Nat :=
  (m.date.dayOfYear - 1 + 7 - (m.date.weekday + 7 - firstDay) % 7) / 7

def directive? (m : Moment) (l : Layout) (letter : Char) : Option (List Char) :=
  let d := m.date
  match letter with
  | '%' => some (l.fill ['%'])
  | 'n' => some (l.fill ['\n'])
  | 't' => some (l.fill ['\t'])
  | 'a' => some (l.name (d.weekdayName.take 3))
  | 'A' => some (l.name d.weekdayName)
  | 'b' | 'h' => some (l.name (d.monthName.take 3))
  | 'B' => some (l.name d.monthName)
  | 'c' =>
    some (l.composed (d.weekdayName.take 3 ++ ' ' :: d.monthName.take 3 ++ ' ' ::
      Layout.spaced ⟨none, false, false, 0⟩ 2 d.day ++ ' ' :: m.fullTime ++ ' ' ::
      Nat.toDigits 10 d.year))
  | 'C' => some (l.number 1 (d.year / 100))
  | 'x' | 'D' => some (l.composed m.shortDate)
  | 'd' => some (l.number 2 d.day)
  | 'e' => some (l.spaced 2 d.day)
  | 'F' =>
    some (l.composed (Nat.toDigits 10 d.year ++ '-' :: padded 2 d.month ++ '-' :: padded 2 d.day))
  | 'H' => some (l.number 2 m.time.hour)
  | 'I' => some (l.number 2 m.hour12)
  | 'k' => some (l.spaced 2 m.time.hour)
  | 'l' => some (l.spaced 2 m.hour12)
  | 'j' => some (l.number 3 d.dayOfYear)
  | 'M' => some (l.number 2 m.time.minute)
  | 'm' => some (l.number 2 d.month)
  | 'p' => some (l.half false m.halfOfDay)
  | 'P' => some (l.half true m.halfOfDay)
  | 'R' => some (l.composed m.shortTime)
  | 'r' =>
    some (l.composed (padded 2 m.hour12 ++ ':' :: padded 2 m.time.minute ++ ':' ::
      padded 2 m.time.second ++ ' ' :: m.halfOfDay))
  | 'S' => some (l.number 2 m.time.second)
  | 's' => some (l.fill m.epochSeconds)
  | 'X' | 'T' => some (l.composed m.fullTime)
  | 'u' => some (l.number 1 ((d.weekday + 6) % 7 + 1))
  | 'U' => some (l.number 2 (m.weekFrom 0))
  | 'V' => some (l.number 2 d.week)
  | 'g' => some (l.number 2 (d.weekYear % 100))
  | 'G' => some (l.number 1 d.weekYear)
  | 'W' => some (l.number 2 (m.weekFrom 1))
  | 'w' => some (l.number 1 d.weekday)
  | 'Y' => some (l.number 1 d.year)
  | 'y' => some (l.number 2 (d.year % 100))
  | 'Z' => some (l.fill [])
  | 'z' => some []
  | _ => none

end Moment

def notAfterE : List Char := "aAbBDdeFghGHIjklmMSUVwW".toList

def notAfterO : List Char := "aAcxDFXY".toList

def allowsModifier (modifier : Option Char) (letter : Char) : Bool :=
  match modifier with
  | none => true
  | some 'E' => !notAfterE.contains letter
  | some _ => !notAfterO.contains letter

def isFlag (c : Char) : Bool := "_-0^#".toList.contains c

/-- The layout that flags and a width ask for.  A width beyond the limit counts as the limit. -/
def Layout.ofFlags (flags : List Char) (width limit : Nat) : Layout where
  filling := flags.reverse.find? (fun c => c != '^' && c != '#')
  upper := flags.contains '^'
  swapped := flags.contains '#'
  width := min width limit

/-- The parts of a directive after its percent sign, and the rest of the pattern. -/
structure Directive where
  flags : List Char
  width : List Char
  modifier : Option Char
  letter : Option Char
  rest : List Char

namespace Directive

def ofText (s : List Char) : Directive :=
  let afterFlags := s.dropWhile isFlag
  let afterWidth := afterFlags.dropWhile isPlainDigit
  let modifier := afterWidth.head?.filter (fun c => c == 'E' || c == 'O')
  let afterModifier := afterWidth.drop modifier.toList.length
  ⟨s.takeWhile isFlag, afterFlags.takeWhile isPlainDigit, modifier, afterModifier.head?,
    afterModifier.drop 1⟩

def source (d : Directive) : List Char :=
  '%' :: d.flags ++ d.width ++ d.modifier.toList ++ d.letter.toList

theorem length_rest_le (s : List Char) : (ofText s).rest.length ≤ s.length := by
  simp only [ofText, List.length_drop]
  have h1 := (List.dropWhile_sublist isFlag (l := s)).length_le
  have h2 := (List.dropWhile_sublist isPlainDigit (l := s.dropWhile isFlag)).length_le
  omega

end Directive

namespace Moment

/-- Whether a letter stands for a name that its other case is asked of before the modifier is looked
at. -/
def isNameLetter (c : Char) : Bool := "AbBh".toList.contains c

/-- What a directive writes.  One that means nothing is written as it stands, in upper case where a
flag asks for it. -/
def write (m : Moment) (limit : Nat) (d : Directive) : List Char :=
  let width := d.width.foldl (fun n c => min (10 * n + (plainDigit? c).getD 0) limit) 0
  let layout := Layout.ofFlags d.flags width limit
  let meaning :=
    match d.letter with
    | some letter => if allowsModifier d.modifier letter then m.directive? layout letter else none
    | none => none
  let upper := layout.upper || (layout.swapped && d.letter.any isNameLetter)
  meaning.getD (layout.fill (if upper then plainUpper d.source else d.source))

/-- Writes a pattern in which the fraction and the distance from universal time are filled in. -/
def formatFilled (m : Moment) (limit : Nat) (s : List Char) : List Char :=
  match s with
  | [] => []
  | '%' :: rest =>
    have := Directive.length_rest_le rest
    m.write limit (Directive.ofText rest) ++ formatFilled m limit (Directive.ofText rest).rest
  | c :: rest => c :: formatFilled m limit rest
termination_by s.length
decreasing_by all_goals simp only [List.length_cons] at *; omega

/-- The size of the buffer: 1024, doubled until it has 256 places for each character. -/
def bufferSize (patternLength : Nat) : Nat :=
  if patternLength ≤ 4 then 1024 else twoTo (Nat.log2 (256 * patternLength - 1) + 1)

/-- Writes a moment by a pattern.  A null character in the name of the clock ends it as well. -/
def format (m : Moment) (pattern : List Char) : List Char :=
  let filled := (m.fillIn pattern).takeWhile (fun c => c != '\x00')
  let size := bufferSize filled.length
  let written := m.formatFilled size filled
  if written.length < size then written else []

end Moment

end SiteTemplates
