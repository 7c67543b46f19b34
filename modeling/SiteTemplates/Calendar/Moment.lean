import SiteTemplates.Calendar.Date

/-!
# Moments

A moment is a date with a time of day, to the microsecond, and perhaps the distance of its clock
from universal time.  With that distance it has an `instant`, a number of microseconds of universal
time.  A moment without it is read on the local clock, and counts the microseconds that this clock
shows.

The local clock is that of a `Zone`, which can be ahead of universal time by more or less as time
goes on.  `Moment.toLocal?` writes an instant on the local clock.
-/

namespace SiteTemplates

def IsTime (hour minute second micro : Nat) : Prop :=
  hour < 24 ∧ minute < 60 ∧ second < 60 ∧ micro < 1000000

instance (hour minute second micro : Nat) : Decidable (IsTime hour minute second micro) :=
  inferInstanceAs (Decidable (_ ∧ _))

structure TimeOfDay where
  hour : Nat
  minute : Nat
  second : Nat
  micro : Nat
  isTime : IsTime hour minute second micro
deriving DecidableEq

namespace TimeOfDay

def ofFields? (hour minute second micro : Nat) : Option TimeOfDay :=
  if h : IsTime hour minute second micro then some ⟨hour, minute, second, micro, h⟩ else none

def midnight : TimeOfDay := ⟨0, 0, 0, 0, by decide⟩

def micros (t : TimeOfDay) : Nat := ((t.hour * 60 + t.minute) * 60 + t.second) * 1000000 + t.micro

/-- The time so many microseconds after the start of a day, days being left out. -/
def ofMicros (n : Nat) : TimeOfDay where
  hour := n / 3600000000 % 24
  minute := n / 60000000 % 60
  second := n / 1000000 % 60
  micro := n % 1000000
  isTime := by unfold IsTime; omega

end TimeOfDay

def microsPerDay : Nat := 86400000000

/-- How far a clock is ahead of universal time: less than a day, to either side.  The clock may have
a name of its own. -/
structure Offset where
  micros : Int
  isOffset : micros.natAbs < 86400000000
  name : Option String := none
deriving DecidableEq

namespace Offset

def ofMicros? (n : Int) : Option Offset :=
  if h : n.natAbs < 86400000000 then some ⟨n, h, none⟩ else none

def utc : Offset := ⟨0, by decide, none⟩

end Offset

/-- How far the clocks of a place are ahead at an instant. -/
structure Zone where
  ahead : Int → Offset

namespace Zone

/-- Where clocks show universal time. -/
def utc : Zone := ⟨fun _ => .utc⟩

def clockAt (z : Zone) (n : Int) : Int := n + (z.ahead n).micros

end Zone

/-- A date with a time of day, on the local clock unless it is said how far the clock is ahead. -/
structure Moment where
  date : Date
  time : TimeOfDay
  offset : Option Offset := none
deriving DecidableEq

namespace Moment

def clock (m : Moment) : Nat := (m.date.ordinal - 1) * microsPerDay + m.time.micros

/-- The microseconds from the start of the year 1: of universal time, or of what the local clock
shows. -/
def instant (m : Moment) : Int :=
  match m.offset with
  | none => m.clock
  | some o => m.clock - o.micros

/-- What a clock shows so many microseconds after the start of the year 1, if that lies in the
calendar. -/
def ofInstant? (n : Int) : Option Moment :=
  (Date.ofOrdinal? (n / microsPerDay + 1)).map (fun date =>
    ⟨date, TimeOfDay.ofMicros (n % microsPerDay).toNat, none⟩)

/-- The same instant on the local clock.  A moment that is on the local clock stays as it is.
Another one is written in universal time first, so it has to lie in the calendar there as well. -/
def toLocal? (m : Moment) (zone : Zone := .utc) : Option Moment :=
  match m.offset with
  | none => some m
  | some _ => (ofInstant? m.instant).bind (fun _ => ofInstant? (zone.clockAt m.instant))

def ofDate (d : Date) : Moment := ⟨d, .midnight, none⟩

end Moment

end SiteTemplates
