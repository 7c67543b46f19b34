import SiteTemplates.Calendar.Moment
import SiteTemplates.Failure

/-!
# Stamped values

A cached value carries the time that its validity hangs on, as the local clock shows it.  It is
fresh for a threshold if the clock does not show less for it than for the threshold; how either of
them is written, on which clock, makes no difference.  A time that the local clock cannot show,
because its year is none of the calendar, is no stamp; a threshold is looked at only where there is
a value to compare it with.

The zone of the local clock stands last, and is that of universal time unless another is named.
-/

namespace SiteTemplates

/-- What the local clock shows at a moment, if it can show it. -/
def stampOf (time : Moment) (zone : Zone := .utc) : Except Failure Int :=
  match time.toLocal? zone with
  | some t => .ok t.instant
  | none => .error .outOfRange

/-- What the local clock shows at a moment, or now if none is given. -/
def stampOr (now : Moment) (time : Option Moment) (zone : Zone := .utc) : Except Failure Int :=
  match time with
  | none => .ok now.instant
  | some t => stampOf t zone

/-- A value and the time that it is as old as, in microseconds from the start of the year 1. -/
structure Stamped (α : Type) where
  value : α
  stamp : Int

namespace Stamped

variable {α : Type}

def isFresh (e : Stamped α) (threshold : Int) : Bool := threshold ≤ e.stamp

/-- The value of an entry, if it is there and not older than a threshold. -/
def current (e? : Option (Stamped α)) (threshold : Option Moment) (zone : Zone := .utc) :
    Except Failure (Option α) :=
  match e?, threshold with
  | none, _ => .ok none
  | some e, none => .ok (some e.value)
  | some e, some t => (stampOf t zone).map (fun t => if e.isFresh t then some e.value else none)

/-- Whether an entry is there and not older than a threshold. -/
def isCurrent (e? : Option (Stamped α)) (threshold : Moment) (zone : Zone := .utc) :
    Except Failure Bool :=
  (current e? (some threshold) zone).map Option.isSome

end Stamped

end SiteTemplates
