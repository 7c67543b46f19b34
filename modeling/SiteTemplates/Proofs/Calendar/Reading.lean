import SiteTemplates.Calendar.Moment
import SiteTemplates.Proofs.Calendar.Ordinal

/-!
# What clocks show

A clock shows seven numbers, from the year to the microsecond.  On one clock the order of what it
shows, number by number, is the order of time (`reading_le_iff`).

A clock shows what lies in the calendar (`isSome_ofInstant?_iff`), and what it shows is that many
microseconds from the start (`instant_of_ofInstant?`).  So the local clock shows a moment at
`Moment.shownIn`, if at all.  A local clock of universal time shows the instant itself, and whether
it can hangs on the instant alone (`isSome_toLocal?_iff`).  Where the local clock is never set back,
it shows more for a later moment (`shownIn_lt_of_before`).
-/

namespace SiteTemplates

namespace TimeOfDay

variable {a b t : TimeOfDay}

def fields (t : TimeOfDay) : List Nat := [t.hour, t.minute, t.second, t.micro]

theorem micros_lt (t : TimeOfDay) : t.micros < microsPerDay := by
  obtain ⟨hhour, hminute, hsecond, hmicro⟩ := t.isTime
  unfold micros microsPerDay
  omega

theorem micros_lt_of_fields_lt (h : a.fields < b.fields) : a.micros < b.micros := by
  obtain ⟨-, haminute, hasecond, hamicro⟩ := a.isTime
  simp only [fields, List.cons_lt_cons_iff, List.not_lt_nil, and_false, or_false] at h
  unfold micros
  rcases h with hhour | ⟨hhour, hminute | ⟨hminute, hsecond | ⟨hsecond, hmicro⟩⟩⟩ <;> omega

theorem eq_of_fields_eq (h : a.fields = b.fields) : a = b := by
  obtain ⟨h, m, s, u, ht⟩ := a
  obtain ⟨h', m', s', u', ht'⟩ := b
  simp only [fields, List.cons.injEq, and_true] at h
  obtain ⟨rfl, rfl, rfl, rfl⟩ := h
  rfl

theorem micros_ofMicros {n : Nat} (h : n < microsPerDay) : (ofMicros n).micros = n := by
  unfold microsPerDay at h
  show ((n / 3600000000 % 24 * 60 + n / 60000000 % 60) * 60 + n / 1000000 % 60) * 1000000 +
    n % 1000000 = n
  omega

end TimeOfDay

/-- The clocks of a place are never set back. -/
def Zone.Forward (z : Zone) : Prop := ∀ m n, m < n → z.clockAt m < z.clockAt n

namespace Moment

variable {a b m : Moment} {n : Int} {zone : Zone}

/-- The numbers that a clock shows, the greatest first. -/
def reading (m : Moment) : List Nat := m.date.fields ++ m.time.fields

theorem clock_lt_of_reading_lt (h : a.reading < b.reading) : a.clock < b.clock := by
  have hpos := a.date.ordinal_pos
  have hmicros := a.time.micros_lt
  unfold microsPerDay at hmicros
  have hdate : a.date.fields < b.date.fields ∨
      a.date.fields = b.date.fields ∧ a.time.fields < b.time.fields := by
    simp only [reading, Date.fields, List.cons_append, List.nil_append, List.cons_lt_cons_iff,
      List.not_lt_nil, and_false, or_false, List.cons.injEq, and_true] at h ⊢
    tauto
  unfold clock microsPerDay
  rcases hdate with hlt | ⟨heq, hlt⟩
  · have hordinal := Date.ordinal_lt_of_fields_lt hlt
    omega
  · have htime := TimeOfDay.micros_lt_of_fields_lt hlt
    rw [Date.eq_of_fields_eq heq]
    omega

theorem eq_of_reading_eq (h : a.reading = b.reading) : a.date = b.date ∧ a.time = b.time := by
  obtain ⟨hdate, htime⟩ := List.append_inj h rfl
  exact ⟨Date.eq_of_fields_eq hdate, TimeOfDay.eq_of_fields_eq htime⟩

/-- The order of what a clock shows is the order of time. -/
theorem reading_le_iff : a.reading ≤ b.reading ↔ a.clock ≤ b.clock := by
  constructor
  · intro h
    rcases lt_or_eq_of_le h with hlt | heq
    · exact Nat.le_of_lt (clock_lt_of_reading_lt hlt)
    · obtain ⟨hdate, htime⟩ := eq_of_reading_eq heq
      unfold clock
      rw [hdate, htime]
  · intro h
    refine not_lt.1 fun hgt => ?_
    have hclock := clock_lt_of_reading_lt hgt
    omega

/-! ### The local clock -/

theorem instant_of_ofInstant? (h : ofInstant? n = some m) : m.offset = none ∧ m.instant = n := by
  obtain ⟨d, hd, rfl⟩ := Option.map_eq_some_iff.1 h
  have hordinal := Date.ordinal_of_ofOrdinal? hd
  have hpos := d.ordinal_pos
  have hrest : (n % microsPerDay).toNat < microsPerDay := by
    unfold microsPerDay
    omega
  refine ⟨rfl, ?_⟩
  show (((d.ordinal - 1) * microsPerDay + (TimeOfDay.ofMicros (n % microsPerDay).toNat).micros :
    Nat) : Int) = n
  rw [TimeOfDay.micros_ofMicros hrest]
  unfold microsPerDay at hordinal ⊢
  omega

theorem isSome_ofInstant?_iff : (ofInstant? n).isSome = true ↔
    0 ≤ n ∧ n < daysBeforeYear 10000 * microsPerDay := by
  rw [ofInstant?, Option.isSome_map, Date.isSome_ofOrdinal?_iff]
  unfold microsPerDay
  omega

theorem clock_lt (m : Moment) : m.clock < daysBeforeYear 10000 * microsPerDay := by
  have hpos := m.date.ordinal_pos
  have hle := m.date.ordinal_le_last
  have hmicros := m.time.micros_lt
  unfold clock microsPerDay at *
  omega

/-- The microseconds that the local clock shows at a moment, be they in the calendar or not. -/
def shownIn (m : Moment) (zone : Zone) : Int :=
  match m.offset with
  | none => m.instant
  | some _ => zone.clockAt m.instant

@[simp] theorem shownIn_utc (m : Moment) : m.shownIn .utc = m.instant := by
  unfold shownIn
  cases m.offset with
  | none => rfl
  | some o => exact Int.add_zero _

theorem toLocal?_of_local (h : m.offset = none) (zone : Zone) : m.toLocal? zone = some m := by
  rw [toLocal?, h]

theorem toLocal?_of_away {o : Offset} (h : m.offset = some o) (zone : Zone) :
    m.toLocal? zone =
      (ofInstant? m.instant).bind (fun _ => ofInstant? (zone.clockAt m.instant)) := by
  rw [toLocal?, h]

theorem toLocal?_utc_of_away {o : Offset} (h : m.offset = some o) :
    m.toLocal? = ofInstant? m.instant := by
  have hclock : Zone.utc.clockAt m.instant = m.instant := Int.add_zero _
  rw [toLocal?_of_away h, hclock]
  cases ofInstant? m.instant <;> rfl

/-- A local clock of universal time shows a moment exactly if its instant lies in the calendar. -/
theorem isSome_toLocal?_iff : m.toLocal?.isSome = true ↔
    0 ≤ m.instant ∧ m.instant < daysBeforeYear 10000 * microsPerDay := by
  cases hm : m.offset with
  | none =>
    have hinstant : m.instant = m.clock := by rw [instant, hm]
    have hlt := m.clock_lt
    rw [toLocal?_of_local hm, hinstant]
    simp only [Option.isSome_some, true_iff]
    omega
  | some o => rw [toLocal?_utc_of_away hm, isSome_ofInstant?_iff]

/-- The counterpart of a moment is what the local clock shows. -/
theorem instant_of_toLocal? (h : m.toLocal? zone = some a) :
    a.offset = none ∧ a.instant = m.shownIn zone := by
  cases hm : m.offset with
  | none =>
    rw [toLocal?_of_local hm] at h
    cases h
    exact ⟨hm, by rw [shownIn, hm]⟩
  | some o =>
    rw [toLocal?_of_away hm, Option.bind_eq_some_iff] at h
    obtain ⟨-, -, h⟩ := h
    rw [shownIn, hm]
    exact instant_of_ofInstant? h

/-- A moment is before another one.  What is on the local clock and what is on another one do not
compare. -/
def Before (a b : Moment) : Prop := a.offset.isSome = b.offset.isSome ∧ a.instant < b.instant

theorem shownIn_lt_of_before (h : a.Before b) (hzone : zone.Forward ∨ a.offset = none) :
    a.shownIn zone < b.shownIn zone := by
  obtain ⟨hkind, hlt⟩ := h
  cases ha : a.offset with
  | none =>
    have hb : b.offset = none := by simpa [ha] using hkind.symm
    rw [shownIn, shownIn, ha, hb]
    exact hlt
  | some o =>
    have hforward : zone.Forward := hzone.resolve_right (by simp [ha])
    obtain ⟨o', hb⟩ : ∃ o', b.offset = some o' :=
      Option.isSome_iff_exists.1 (by rw [← hkind, ha]; rfl)
    rw [shownIn, shownIn, ha, hb]
    exact hforward _ _ hlt

end Moment

end SiteTemplates
