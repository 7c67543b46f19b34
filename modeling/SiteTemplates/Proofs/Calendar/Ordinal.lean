import Mathlib.Algebra.GroupWithZero.Nat
import Mathlib.Algebra.Order.BigOperators.Group.List
import Mathlib.Order.Defs.LinearOrder
import Mathlib.Data.List.Lex
import SiteTemplates.Calendar.Date

/-!
# Dates by their numbers

A year ends where the next one begins (`daysBeforeYear_succ`), and so does a month.  So dates are in
the order of year, month and day exactly if their numbers are (`ordinal_lt_of_fields_lt`).

The way back takes a number apart, first into a year and the days of that year before it
(`exists_yearAndRest_eq`), then into a month and a day (`exists_monthAndDay_eq`).  It finds a date
for every number from one to the last day of the year 9999 (`isSome_ofOrdinal?_iff`), and that date
has the number (`ordinal_of_ofOrdinal?`).
-/

namespace SiteTemplates

/-! ### Years -/

def yearLength (year : Nat) : Nat := if isLeapYear year then 366 else 365

theorem isLeapYear_iff {year : Nat} :
    isLeapYear year = true ↔ 4 ∣ year ∧ (¬ 100 ∣ year ∨ 400 ∣ year) := by
  simp [isLeapYear, Nat.dvd_iff_mod_eq_zero]

theorem daysBeforeYear_succ {year : Nat} (h : 1 ≤ year) :
    daysBeforeYear (year + 1) = daysBeforeYear year + yearLength year := by
  obtain ⟨n, rfl⟩ : ∃ n, year = n + 1 := ⟨year - 1, by omega⟩
  unfold daysBeforeYear yearLength
  rw [Nat.add_sub_cancel, Nat.add_sub_cancel, Nat.succ_div, Nat.succ_div, Nat.succ_div]
  have hle : n / 100 ≤ n / 4 := Nat.div_le_div_left (by decide) (by decide)
  have h100 : 100 ∣ n + 1 → 4 ∣ n + 1 := Nat.dvd_trans (by decide)
  have h400 : 400 ∣ n + 1 → 100 ∣ n + 1 := Nat.dvd_trans (by decide)
  simp only [isLeapYear_iff]
  generalize n / 4 = q4, n / 100 = q100, n / 400 = q400 at hle ⊢
  by_cases hd4 : 4 ∣ n + 1 <;> by_cases hd100 : 100 ∣ n + 1 <;> by_cases hd400 : 400 ∣ n + 1 <;>
    simp_all <;> omega

theorem daysBeforeYear_mono {year year' : Nat} (h : 1 ≤ year) (hle : year ≤ year') :
    daysBeforeYear year ≤ daysBeforeYear year' := by
  induction hle with
  | refl => exact Nat.le_refl _
  | @step m hle ih =>
    have hsucc : daysBeforeYear (m + 1) = daysBeforeYear m + yearLength m :=
      daysBeforeYear_succ (Nat.le_trans h hle)
    have hgoal : daysBeforeYear year ≤ daysBeforeYear (m + 1) := by omega
    exact hgoal

/-- The days before a year that is counted in periods of 400, 100, 4 and 1 years. -/
theorem daysBeforeYear_periods (a : Nat) {b c d : Nat} (hb : b ≤ 3) (hc : c ≤ 24) (hd : d ≤ 3) :
    daysBeforeYear (a * 400 + b * 100 + c * 4 + d + 1) =
      a * 146097 + b * 36524 + c * 1461 + d * 365 := by
  have h4 : (a * 400 + b * 100 + c * 4 + d) / 4 = a * 100 + b * 25 + c := by omega
  have h100 : (a * 400 + b * 100 + c * 4 + d) / 100 = a * 4 + b := by omega
  have h400 : (a * 400 + b * 100 + c * 4 + d) / 400 = a := by omega
  unfold daysBeforeYear
  rw [Nat.add_sub_cancel, h4, h100, h400]
  omega

theorem isLeapYear_periods (a : Nat) {b c : Nat} (hc : c ≤ 24) (h : c ≤ 23 ∨ b = 3) :
    isLeapYear (a * 400 + b * 100 + c * 4 + 3 + 1) = true := by
  rw [isLeapYear_iff]
  omega

/-- The year in the last of these periods, after `d` years and `e` days of it. -/
theorem exists_year_of_periods (a : Nat) {b c d e : Nat} (hd : d * 365 + e < 1461) (he : e < 365)
    (hc : c * 1461 + (d * 365 + e) < 36524)
    (hb : b * 36524 + (c * 1461 + (d * 365 + e)) < 146097) :
    ∃ year rest, (if b = 4 ∨ d = 4 then (a * 400 + b * 100 + c * 4 + d, 365)
        else (a * 400 + b * 100 + c * 4 + d + 1, e)) = (year, rest) ∧
      1 ≤ year ∧ rest < yearLength year ∧
      daysBeforeYear year + rest = a * 146097 + (b * 36524 + (c * 1461 + (d * 365 + e))) := by
  -- on the last day of 400 or of 4 years the count of years is one ahead
  have hlast : ∀ b' c', b' ≤ 3 → c' ≤ 24 → (c' ≤ 23 ∨ b' = 3) →
      a * 400 + b * 100 + c * 4 + d = a * 400 + b' * 100 + c' * 4 + 3 + 1 →
      365 < yearLength (a * 400 + b * 100 + c * 4 + d) ∧
        daysBeforeYear (a * 400 + b * 100 + c * 4 + d) =
          a * 146097 + b' * 36524 + c' * 1461 + 3 * 365 := by
    intro b' c' hb' hc' h hyear
    rw [hyear, yearLength, if_pos (isLeapYear_periods a hc' h)]
    exact ⟨by omega, daysBeforeYear_periods a hb' hc' (Nat.le_refl 3)⟩
  by_cases hb4 : b = 4
  · obtain ⟨hlength, hbefore⟩ := hlast 3 24 (by omega) (by omega) (by omega) (by omega)
    exact ⟨_, _, if_pos (.inl hb4), by omega, hlength, by omega⟩
  by_cases hd4 : d = 4
  · obtain ⟨hlength, hbefore⟩ := hlast b c (by omega) (by omega) (by omega) (by omega)
    exact ⟨_, _, if_pos (.inr hd4), by omega, hlength, by omega⟩
  have hbefore := daysBeforeYear_periods a (show b ≤ 3 by omega) (show c ≤ 24 by omega)
    (show d ≤ 3 by omega)
  refine ⟨_, _, if_neg (by omega), by omega, ?_, by omega⟩
  unfold yearLength
  split <;> omega

/-- Every number of days that go by ends in one year. -/
theorem exists_yearAndRest_eq (n : Nat) : ∃ year rest, Date.yearAndRest n = (year, rest) ∧
    1 ≤ year ∧ rest < yearLength year ∧ daysBeforeYear year + rest = n := by
  have hn := Nat.div_add_mod' n 146097
  have hr := Nat.div_add_mod' (n % 146097) 36524
  have hs := Nat.div_add_mod' (n % 146097 % 36524) 1461
  have ht := Nat.div_add_mod' (n % 146097 % 36524 % 1461) 365
  have hperiods := exists_year_of_periods (n / 146097) (b := n % 146097 / 36524)
    (c := n % 146097 % 36524 / 1461) (d := n % 146097 % 36524 % 1461 / 365)
    (e := n % 146097 % 36524 % 1461 % 365)
  rw [ht, hs, hr, hn] at hperiods
  exact hperiods (Nat.mod_lt _ (by decide)) (Nat.mod_lt _ (by decide)) (Nat.mod_lt _ (by decide))
    (Nat.mod_lt _ (by decide))

/-! ### Months -/

theorem sum_monthLengths (year : Nat) : (monthLengths year).sum = yearLength year := by
  unfold monthLengths yearLength
  split <;> rfl

theorem daysBeforeMonth_eq (year month : Nat) :
    daysBeforeMonth year month = ((monthLengths year).take (month - 1)).sum := by
  rw [List.sum_eq_foldl]
  rfl

theorem daysBeforeMonth_succ (year : Nat) {month : Nat} (h : 1 ≤ month) (hle : month ≤ 12) :
    daysBeforeMonth year (month + 1) = daysBeforeMonth year month + daysInMonth year month := by
  have hindex : month - 1 < (monthLengths year).length := by
    show month - 1 < 12
    omega
  have hsucc : month + 1 - 1 = month - 1 + 1 := by omega
  rw [daysBeforeMonth_eq, daysBeforeMonth_eq, hsucc, List.sum_take_succ _ _ hindex, daysInMonth,
    List.getD_eq_getElem?_getD, List.getElem?_eq_getElem hindex, Option.getD_some]

theorem daysBeforeMonth_mono (year : Nat) {month month' : Nat} (h : 1 ≤ month)
    (hle : month ≤ month') (hmonth : month' ≤ 13) :
    daysBeforeMonth year month ≤ daysBeforeMonth year month' := by
  induction hle with
  | refl => exact Nat.le_refl _
  | @step m hle ih =>
    have hm : m ≤ 12 := Nat.le_of_succ_le_succ hmonth
    have hsucc := daysBeforeMonth_succ year (Nat.le_trans h hle) hm
    have hbefore := ih (by omega)
    show daysBeforeMonth year month ≤ daysBeforeMonth year (m + 1)
    omega

theorem daysBeforeMonth_last (year : Nat) : daysBeforeMonth year 13 = yearLength year := by
  rw [daysBeforeMonth_eq, ← sum_monthLengths]
  rfl

/-- Every day of a year lies in one of its months. -/
theorem exists_monthAndDay_eq {lengths : List Nat} {n : Nat} (h : n < lengths.sum) (month : Nat) :
    ∃ i day, Date.monthAndDay month n lengths = (month + i, day) ∧ i < lengths.length ∧
      1 ≤ day ∧ day ≤ lengths.getD i 0 ∧ (lengths.take i).sum + day = n + 1 := by
  induction lengths generalizing month n with
  | nil => exact absurd h (Nat.not_lt_zero n)
  | cons length rest ih =>
    rw [Date.monthAndDay]
    by_cases hn : n < length
    · exact ⟨0, n + 1, if_pos hn, Nat.succ_pos _, by omega, by simpa using Nat.succ_le_of_lt hn,
        by simp⟩
    · rw [List.sum_cons] at h
      obtain ⟨i, day, heq, hi, hday, hle, hsum⟩ := ih (n := n - length) (by omega) (month + 1)
      refine ⟨i + 1, day, ?_, Nat.succ_lt_succ hi, hday, hle, ?_⟩
      · rw [if_neg hn, heq]
        congr 1
        omega
      · rw [List.take_succ_cons, List.sum_cons]
        omega

/-! ### Dates -/

namespace Date

variable {a b d : Date} {n : Int}

def fields (d : Date) : List Nat := [d.year, d.month, d.day]

theorem dayOfYear_le (d : Date) : d.dayOfYear ≤ yearLength d.year := by
  obtain ⟨-, -, hmonth, hmonth', -, hday⟩ := d.isDate
  have hsucc := daysBeforeMonth_succ d.year hmonth hmonth'
  have hlast := daysBeforeMonth_mono d.year (show 1 ≤ d.month + 1 by omega)
    (show d.month + 1 ≤ 13 by omega) (Nat.le_refl 13)
  rw [daysBeforeMonth_last] at hlast
  unfold dayOfYear
  omega

theorem dayOfYear_pos (d : Date) : 1 ≤ d.dayOfYear := by
  obtain ⟨-, -, -, -, hday, -⟩ := d.isDate
  unfold dayOfYear
  omega

theorem ordinal_pos (d : Date) : 1 ≤ d.ordinal := Nat.le_add_left_of_le d.dayOfYear_pos

theorem ordinal_le (d : Date) : d.ordinal ≤ daysBeforeYear (d.year + 1) := by
  have hyear := d.dayOfYear_le
  rw [daysBeforeYear_succ d.isDate.1, ordinal]
  omega

/-- The order of dates is the order of their numbers. -/
theorem ordinal_lt_of_fields_lt (h : a.fields < b.fields) : a.ordinal < b.ordinal := by
  simp only [fields, List.cons_lt_cons_iff, List.not_lt_nil, and_false, or_false] at h
  rcases h with hyear | ⟨hyear, hmonth | ⟨hmonth, hday⟩⟩
  · have hle := a.ordinal_le
    have hmono := daysBeforeYear_mono (show 1 ≤ a.year + 1 by omega) hyear
    have hpos := b.dayOfYear_pos
    unfold ordinal at hle ⊢
    omega
  · obtain ⟨-, -, ham, ham', -, hda⟩ := a.isDate
    obtain ⟨-, -, -, hbm', hdb, -⟩ := b.isDate
    have hsucc := daysBeforeMonth_succ a.year ham ham'
    have hmono := daysBeforeMonth_mono a.year (show 1 ≤ a.month + 1 by omega) hmonth (by omega)
    unfold ordinal dayOfYear
    rw [← hyear]
    omega
  · unfold ordinal dayOfYear
    rw [← hyear, ← hmonth]
    omega

theorem eq_of_fields_eq (h : a.fields = b.fields) : a = b := by
  obtain ⟨y, m, d, hd⟩ := a
  obtain ⟨y', m', d', hd'⟩ := b
  simp only [fields, List.cons.injEq, and_true] at h
  obtain ⟨rfl, rfl, rfl⟩ := h
  rfl

theorem ordinal_le_last (d : Date) : d.ordinal ≤ daysBeforeYear 10000 := by
  obtain ⟨hyear, hyear', -⟩ := d.isDate
  exact Nat.le_trans d.ordinal_le
    (daysBeforeYear_mono (show 1 ≤ d.year + 1 by omega) (show d.year + 1 ≤ 10000 by omega))

/-- A number is taken apart into a year, a month and a day, which make a date unless the year is too
great. -/
theorem exists_ofOrdinal?_eq (m : Nat) : ∃ year month day,
    ofOrdinal? (m + 1 : Nat) = ofFields? year month day ∧
      (year ≤ 9999 → IsDate year month day) ∧ 1 ≤ day ∧
      daysBeforeYear year + (daysBeforeMonth year month + day) = m + 1 := by
  obtain ⟨year, rest, hsplit, hyear, hrest, hsum⟩ := exists_yearAndRest_eq m
  rw [← sum_monthLengths] at hrest
  obtain ⟨i, day, hmonth, hi, hday, hday', hbefore⟩ := exists_monthAndDay_eq hrest 1
  have hlength : i < 12 := hi
  have hindex : 1 + i - 1 = i := by omega
  refine ⟨year, 1 + i, day, ?_, fun hle => ?_, hday, ?_⟩
  · have hpos : ¬ ((m + 1 : Nat) : Int) < 1 := by omega
    have hnat : ((m + 1 : Nat) : Int).toNat - 1 = m := by omega
    unfold ofOrdinal?
    rw [if_neg hpos, hnat, hsplit]
    dsimp only
    rw [hmonth]
  · refine ⟨hyear, hle, by omega, by omega, hday, ?_⟩
    rw [daysInMonth, hindex]
    exact hday'
  · rw [daysBeforeMonth_eq, hindex]
    omega

theorem ordinal_of_ofOrdinal? (h : ofOrdinal? n = some d) : d.ordinal = n := by
  by_cases hn : n < 1
  · rw [ofOrdinal?, if_pos hn] at h
    cases h
  · obtain ⟨m, rfl⟩ : ∃ m : Nat, n = (m + 1 : Nat) := ⟨n.toNat - 1, by omega⟩
    obtain ⟨year, month, day, heq, -, -, hsum⟩ := exists_ofOrdinal?_eq m
    rw [heq, ofFields?] at h
    split at h
    · cases h
      exact congrArg Int.ofNat hsum
    · cases h

/-- The numbers of dates are those from one to the last day of the calendar. -/
theorem isSome_ofOrdinal?_iff :
    (ofOrdinal? n).isSome = true ↔ 1 ≤ n ∧ n ≤ daysBeforeYear 10000 := by
  constructor
  · intro h
    obtain ⟨d, hd⟩ := Option.isSome_iff_exists.1 h
    have hordinal := ordinal_of_ofOrdinal? hd
    have hpos := d.ordinal_pos
    have hle := d.ordinal_le_last
    omega
  · rintro ⟨hpos, hle⟩
    obtain ⟨m, rfl⟩ : ∃ m : Nat, n = (m + 1 : Nat) := ⟨n.toNat - 1, by omega⟩
    obtain ⟨year, month, day, heq, hdate, hday, hsum⟩ := exists_ofOrdinal?_eq m
    have hlast : year ≤ 9999 := by
      by_contra hgt
      have hmono := daysBeforeYear_mono (show 1 ≤ 10000 by decide) (show 10000 ≤ year by omega)
      omega
    rw [heq, ofFields?, dif_pos (hdate hlast)]
    rfl

end Date

end SiteTemplates
