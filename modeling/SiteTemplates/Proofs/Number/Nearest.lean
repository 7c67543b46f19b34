import Mathlib.Algebra.Order.Field.Basic
import Mathlib.Algebra.Order.Field.Rat
import Mathlib.Tactic.FieldSimp
import Mathlib.Tactic.Linarith
import SiteTemplates.Number.Binary

/-!
# Rounding to the nearest number

`Binary.ofRatio` counts a ratio in units of `2 ^ -1074` and rounds it to a multiple of a power of
two, which is chosen so that the significand fits.  No multiple of that power is nearer
(`roundQuotient_nearest`).  A number that is no multiple of it has a smaller exponent, and so it
lies below all ratios for which the power is chosen; the least of these is a multiple, and it is
nearer (`units_nearest`).  So there is no nearer number at all (`isNearest_ofRatio`), for the ratios
up to one, which need no exponent that is out of range.
-/

namespace SiteTemplates

theorem twoTo_add (m n : Nat) : twoTo (m + n) = twoTo m * twoTo n := Nat.pow_add 2 m n

theorem twoTo_pos (n : Nat) : 0 < twoTo n := Nat.pow_pos Nat.two_pos

theorem twoTo_le_twoTo {m n : Nat} (h : m ≤ n) : twoTo m ≤ twoTo n :=
  Nat.pow_le_pow_right Nat.two_pos h

namespace Binary

/-! ### Rounding a quotient -/

def gap (num den k : Nat) : Nat := ((k * den : Nat) - (num : Int)).natAbs

variable {num den : Nat}

/-- No multiple of the divisor is nearer than the rounded one. -/
theorem roundQuotient_nearest (hden : 0 < den) (num k : Nat) :
    gap num den (roundQuotient num den) ≤ gap num den k := by
  have hsplit : num / den * den + num % den = num := Nat.div_add_mod' num den
  have hrest : num % den < den := Nat.mod_lt num hden
  have hnext : (num / den + 1) * den = num / den * den + den := Nat.succ_mul _ _
  -- a multiple is below the ratio by the remainder or more, or above it by what is left or more
  have hk : k * den ≤ num / den * den ∨ num / den * den + den ≤ k * den := by
    rcases Nat.lt_or_ge (num / den) k with h | h
    · exact .inr (hnext ▸ Nat.mul_le_mul_right den h)
    · exact .inl (Nat.mul_le_mul_right den h)
  unfold roundQuotient gap
  simp only
  split
  · omega
  · split
    · omega
    · rcases Nat.mod_two_eq_zero_or_one (num / den) with heven | hodd
      · rw [heven, Nat.add_zero]
        omega
      · rw [hodd]
        omega

theorem roundQuotient_le (hden : 0 < den) {bound : Nat} (h : num < bound * den) :
    roundQuotient num den ≤ bound := by
  have hquotient : num / den < bound := (Nat.div_lt_iff_lt_mul hden).2 h
  unfold roundQuotient
  simp only
  split
  · omega
  · split
    · omega
    · omega

/-! ### The exponent -/

/-- The exponent of the numbers between which a whole number of units lies. -/
def exponentFor (whole : Nat) : Nat := (if whole = 0 then 0 else Nat.log2 whole + 1) - 53

theorem lt_of_exponentFor (whole : Nat) : whole < twoTo 53 * twoTo (exponentFor whole) := by
  rw [← twoTo_add, exponentFor]
  split
  · rename_i hzero
    rw [hzero]
    exact twoTo_pos _
  · have hlog : whole < twoTo (Nat.log2 whole + 1) := Nat.lt_log2_self
    exact Nat.lt_of_lt_of_le hlog (twoTo_le_twoTo (by omega))

/-- Where an exponent is needed, the significand takes all its bits. -/
theorem le_of_exponentFor {whole : Nat} (h : 0 < exponentFor whole) :
    twoTo 52 * twoTo (exponentFor whole) ≤ whole := by
  rw [exponentFor] at h ⊢
  split at h
  · omega
  · rename_i hzero
    rw [if_neg hzero, ← twoTo_add]
    have hlog : twoTo (Nat.log2 whole) ≤ whole := Nat.log2_self_le hzero
    exact Nat.le_trans (twoTo_le_twoTo (by omega)) hlog

theorem exponentFor_le {whole n : Nat} (h : whole ≤ twoTo n) : exponentFor whole ≤ n - 52 := by
  rw [exponentFor]
  split
  · omega
  · rename_i hzero
    have hlog : Nat.log2 whole < n + 1 := (Nat.log2_lt hzero).2
      (Nat.lt_of_le_of_lt h (Nat.pow_lt_pow_right Nat.one_lt_two (Nat.lt_succ_self n)))
    omega

/-! ### Rounding a ratio -/

theorem gap_mul (num den power k : Nat) : gap num (den * power) k = gap num den (k * power) := by
  rw [gap, gap, Nat.mul_comm den, Nat.mul_assoc]

/-- Rounded to a multiple of the power of two for it, a ratio is nearest to itself among all numbers
whose significands fit. -/
theorem units_nearest (hden : 0 < den) {units shift : Nat}
    (hshift : exponentFor (units / den) = shift) {significand : Nat}
    (hs : significand < twoTo 53) (exponent : Nat) :
    gap units den (roundQuotient units (den * twoTo shift) * twoTo shift) ≤
      gap units den (significand * twoTo exponent) := by
  have hpower : 0 < den * twoTo shift := Nat.mul_pos hden (twoTo_pos shift)
  have hmultiple : ∀ k, gap units den (roundQuotient units (den * twoTo shift) * twoTo shift) ≤
      gap units den (k * twoTo shift) := by
    intro k
    rw [← gap_mul, ← gap_mul]
    exact roundQuotient_nearest hpower units k
  rcases Nat.lt_or_ge exponent shift with hless | hmore
  · -- the number is below the least ratio of this power, which is a multiple of it
    have hleast : twoTo 52 * twoTo shift * den ≤ units := by
      have hpositive : 0 < exponentFor (units / den) := by omega
      rw [← hshift]
      exact (Nat.le_div_iff_mul_le hden).1 (le_of_exponentFor hpositive)
    have hbelow : significand * twoTo exponent ≤ twoTo 52 * twoTo shift := by
      have hbits : twoTo 53 * twoTo exponent ≤ twoTo 52 * twoTo shift := by
        rw [← twoTo_add, ← twoTo_add]
        exact twoTo_le_twoTo (by omega)
      exact Nat.le_trans (Nat.mul_le_mul_right _ (Nat.le_of_lt hs)) hbits
    have hscaled : significand * twoTo exponent * den ≤ twoTo 52 * twoTo shift * den :=
      Nat.mul_le_mul_right den hbelow
    have hgap : gap units den (twoTo 52 * twoTo shift) ≤
        gap units den (significand * twoTo exponent) := by
      rw [gap, gap]
      omega
    exact Nat.le_trans (hmultiple (twoTo 52)) hgap
  · have hsame : significand * twoTo exponent =
        significand * twoTo (exponent - shift) * twoTo shift := by
      rw [Nat.mul_assoc, ← twoTo_add, Nat.sub_add_cancel hmore]
    rw [hsame]
    exact hmultiple _

/-- `ofRatio` for any powers: in checks of what it is, powers that are numbers would be computed. -/
def ofRatioIn (unit full half : Nat) (negative : Bool) (num den : Nat) : Binary :=
  let units := num * unit
  let whole := units / den
  let exponent := (if whole = 0 then 0 else Nat.log2 whole + 1) - 53
  let significand := roundQuotient units (den * twoTo exponent)
  let (significand, exponent) :=
    if significand = full then (half, exponent + 1) else (significand, exponent)
  if 2045 < exponent then infinite negative else finite negative significand exponent

theorem ofRatio_eq (negative : Bool) (num den : Nat) :
    ofRatio negative num den = ofRatioIn (twoTo 1074) (twoTo 53) (twoTo 52) negative num den := rfl

theorem ofRatioIn_eq (unit full half : Nat) (negative : Bool) (num den : Nat) :
    ofRatioIn unit full half negative num den =
      let exponent := exponentFor (num * unit / den)
      let rounded := roundQuotient (num * unit) (den * twoTo exponent)
      if rounded = full then
        if 2045 < exponent + 1 then infinite negative else finite negative half (exponent + 1)
      else if 2045 < exponent then infinite negative else finite negative rounded exponent := by
  unfold ofRatioIn exponentFor
  simp only
  generalize (if num * unit / den = 0 then 0 else (num * unit / den).log2 + 1) - 53 = exponent
  by_cases h : roundQuotient (num * unit) (den * twoTo exponent) = full
  · simp only [h, if_true]
  · simp only [h, if_false]

/-- A ratio for which the exponent is in range is rounded to a finite number. -/
theorem exists_ofRatioIn_eq (hden : 0 < den) (unit : Nat)
    (hrange : exponentFor (num * unit / den) ≤ 2044) (negative : Bool) :
    ∃ significand exponent,
      ofRatioIn unit (twoTo 53) (twoTo 52) negative num den =
        finite negative significand exponent ∧
      significand < twoTo 53 ∧ exponent ≤ 2045 ∧
      ∀ s < twoTo 53, ∀ e, gap (num * unit) den (significand * twoTo exponent) ≤
        gap (num * unit) den (s * twoTo e) := by
  obtain ⟨shift, hshift⟩ : ∃ shift, exponentFor (num * unit / den) = shift := ⟨_, rfl⟩
  obtain ⟨rounded, hrounded⟩ :
      ∃ rounded, roundQuotient (num * unit) (den * twoTo shift) = rounded := ⟨_, rfl⟩
  have hnearest : ∀ s < twoTo 53, ∀ e, gap (num * unit) den (rounded * twoTo shift) ≤
      gap (num * unit) den (s * twoTo e) := by
    intro s hs e
    rw [← hrounded]
    exact units_nearest hden hshift hs e
  have hle : rounded ≤ twoTo 53 := by
    have hwhole := (Nat.div_lt_iff_lt_mul hden).1 (lt_of_exponentFor (num * unit / den))
    rw [hshift, Nat.mul_assoc, Nat.mul_comm _ den] at hwhole
    rw [← hrounded]
    exact roundQuotient_le (Nat.mul_pos hden (twoTo_pos shift)) hwhole
  rw [ofRatioIn_eq]
  simp only [hshift, hrounded]
  by_cases hfull : rounded = twoTo 53
  · -- the significand was rounded up to one bit more, so it is halved
    have hhalf : twoTo 52 * twoTo (shift + 1) = rounded * twoTo shift := by
      rw [hfull, ← twoTo_add, ← twoTo_add]
      exact congrArg twoTo (by omega)
    have hfits : twoTo 52 < twoTo 53 := Nat.pow_lt_pow_right Nat.one_lt_two (Nat.lt_succ_self 52)
    refine ⟨twoTo 52, shift + 1, ?_, hfits, by omega, ?_⟩
    · rw [if_pos hfull, if_neg (by omega)]
    · rw [hhalf]
      exact hnearest
  · refine ⟨rounded, shift, ?_, Nat.lt_of_le_of_ne hle hfull, by omega, hnearest⟩
    rw [if_neg hfull, if_neg (by omega)]

/-! ### Numbers as rationals -/

/-- The number fits into 53 significant bits and the range of the exponent. -/
def Fits : Binary → Prop
  | finite _ significand exponent => significand < twoTo 53 ∧ exponent ≤ 2045
  | _ => False

def rational? : Binary → Option ℚ
  | finite false significand exponent => some ((significand * twoTo exponent : Nat) / twoTo 1074)
  | finite true significand exponent => some (-((significand * twoTo exponent : Nat) / twoTo 1074))
  | _ => none

/-- A finite number to which none is nearer to the rational. -/
def IsNearest (x : Binary) (q : ℚ) : Prop :=
  x.Fits ∧ ∃ r, x.rational? = some r ∧
    ∀ y : Binary, y.Fits → ∀ t, y.rational? = some t → |r - q| ≤ |t - q|

theorem abs_div_sub_div {unit : Nat} (hunit : 0 < unit) (hden : 0 < den) (num k : Nat) :
    |(k : ℚ) / unit - num / den| = gap (num * unit) den k / (unit * den) := by
  have hden' : (0 : ℚ) < den := Nat.cast_pos.2 hden
  have hunit' : (0 : ℚ) < unit := Nat.cast_pos.2 hunit
  have hdifference : (k : ℚ) / unit - num / den = (k * den - num * unit) / (unit * den) := by
    field_simp
  have hgap : (gap (num * unit) den k : ℚ) = |(k * den - num * unit : ℚ)| := by
    rw [gap, Nat.cast_natAbs, Int.cast_abs]
    push_cast
    rfl
  rw [hdifference, abs_div, abs_of_pos (mul_pos hunit' hden'), hgap]

/-- What is nearer in units is nearer as a rational, and the numbers below zero are farther away. -/
theorem abs_le_of_gap_le {unit : Nat} (hunit : 0 < unit) (hden : 0 < den) {k m : Nat}
    (h : gap (num * unit) den k ≤ gap (num * unit) den m) :
    |(k : ℚ) / unit - num / den| ≤ |(m : ℚ) / unit - num / den| ∧
      |(k : ℚ) / unit - num / den| ≤ |-((m : ℚ) / unit) - num / den| := by
  have hscale : (0 : ℚ) ≤ unit * den := mul_nonneg (Nat.cast_nonneg unit) (Nat.cast_nonneg den)
  have hratio : (0 : ℚ) ≤ num / den := div_nonneg (Nat.cast_nonneg num) (Nat.cast_nonneg den)
  have hother : (0 : ℚ) ≤ m / unit := div_nonneg (Nat.cast_nonneg m) (Nat.cast_nonneg unit)
  have hnearer : |(k : ℚ) / unit - num / den| ≤ |(m : ℚ) / unit - num / den| := by
    rw [abs_div_sub_div hunit hden, abs_div_sub_div hunit hden]
    exact div_le_div_of_nonneg_right (Nat.cast_le.2 h) hscale
  have hopposite : |(m : ℚ) / unit - num / den| ≤ |-((m : ℚ) / unit) - num / den| := by
    have hnegative : -((m : ℚ) / unit) - num / den ≤ 0 := by linarith
    rw [abs_of_nonpos hnegative, abs_le]
    constructor <;> linarith
  exact ⟨hnearer, hnearer.trans hopposite⟩

/-- **Ratios are rounded to the nearest number.** -/
theorem isNearest_ofRatio (hden : 0 < den) (h : num ≤ den) :
    (ofRatio false num den).IsNearest (num / den) := by
  have hwhole : num * twoTo 1074 / den ≤ twoTo 1074 :=
    Nat.div_le_of_le_mul (Nat.mul_le_mul_right _ h)
  have hrange : exponentFor (num * twoTo 1074 / den) ≤ 2044 :=
    Nat.le_trans (exponentFor_le hwhole) (by omega)
  obtain ⟨significand, exponent, heq, hs, he, hnearest⟩ :=
    exists_ofRatioIn_eq hden (twoTo 1074) hrange false
  rw [ofRatio_eq, heq]
  refine ⟨⟨hs, he⟩, _, rfl, fun y hy t ht => ?_⟩
  cases y with
  | finite negative s e =>
    have hle := abs_le_of_gap_le (twoTo_pos 1074) hden (hnearest s hy.1 e)
    cases negative with
    | false =>
      obtain rfl := Option.some.inj ht
      exact hle.1
    | true =>
      obtain rfl := Option.some.inj ht
      exact hle.2
  | infinite negative => exact absurd hy id
  | notNumber => exact absurd hy id

end Binary

end SiteTemplates
