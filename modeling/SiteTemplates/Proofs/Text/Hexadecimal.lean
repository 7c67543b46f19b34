import Mathlib.Data.Nat.Digits.Defs
import SiteTemplates.Text.Quoted

/-!
# Hexadecimal digits

A number that fits is written with exactly as many digits as there are places, and the digits tell
which number it is, whatever follows them (`hexadecimal_append_inj`).
-/

namespace SiteTemplates.Text

variable {width m n : Nat}

theorem digitChar_inj (hm : m < 16) (hn : n < 16) (h : m.digitChar = n.digitChar) : m = n := by
  have hall : ∀ m < 16, ∀ n < 16, m.digitChar = n.digitChar → m = n := by decide
  exact hall m hm n hn h

theorem hexadecimal_eq (width n : Nat) : hexadecimal width n =
    List.replicate (width - (Nat.toDigits 16 n).length) '0' ++ Nat.toDigits 16 n := rfl

/-! ### Numbers with zeros in front -/

/-- The last place holds the remainder, the places before it the quotient. -/
theorem filled_toDigits_succ {base : Nat} (hbase : 1 < base) (h : 0 < width) (n : Nat) :
    List.replicate (width + 1 - (Nat.toDigits base n).length) '0' ++ Nat.toDigits base n =
      List.replicate (width - (Nat.toDigits base (n / base)).length) '0' ++
        Nat.toDigits base (n / base) ++ [(n % base).digitChar] := by
  rw [Nat.toDigits_eq_if hbase]
  split
  · rename_i hlt
    have hquotient : n / base = 0 := Nat.div_eq_of_lt hlt
    have hzeros : List.replicate (width - 1) '0' ++ ['0'] = List.replicate width '0' := by
      rw [← List.replicate_succ']
      congr 1
      omega
    rw [hquotient, Nat.toDigits_zero, Nat.mod_eq_of_lt hlt]
    exact congrArg (· ++ [n.digitChar]) hzeros.symm
  · rw [List.length_append, List.length_singleton, Nat.add_sub_add_right, List.append_assoc]

theorem length_filled_toDigits {base : Nat} (hbase : 1 < base) (h : 0 < width)
    (hn : n < base ^ width) :
    (List.replicate (width - (Nat.toDigits base n).length) '0' ++
      Nat.toDigits base n).length = width := by
  have hlength := (Nat.length_toDigits_le_iff hbase h).2 hn
  rw [List.length_append, List.length_replicate]
  omega

/-! ### Base sixteen -/

theorem hexadecimal_succ (h : 0 < width) (n : Nat) :
    hexadecimal (width + 1) n = hexadecimal width (n / 16) ++ [(n % 16).digitChar] :=
  filled_toDigits_succ (by decide) h n

theorem length_hexadecimal (h : 0 < width) (hn : n < 16 ^ width) :
    (hexadecimal width n).length = width :=
  length_filled_toDigits (by decide) h hn

theorem hexadecimal_inj (h : 0 < width) (hm : m < 16 ^ width) (hn : n < 16 ^ width)
    (heq : hexadecimal width m = hexadecimal width n) : m = n := by
  induction width generalizing m n with
  | zero => omega
  | succ width ih =>
    rcases Nat.eq_zero_or_pos width with rfl | hpos
    · have hone : ∀ k < 16, hexadecimal 1 k = [k.digitChar] := by
        intro k hk
        rw [hexadecimal_eq, Nat.toDigits_of_lt_base hk]
        rfl
      rw [hone m hm, hone n hn] at heq
      exact digitChar_inj hm hn (List.singleton_inj.1 heq)
    · rw [hexadecimal_succ hpos, hexadecimal_succ hpos] at heq
      obtain ⟨hquotient, hlast⟩ := List.append_inj' heq rfl
      have hdivide : ∀ k, k < 16 ^ (width + 1) → k / 16 < 16 ^ width := by
        intro k hk
        rw [Nat.pow_succ] at hk
        omega
      have hq := ih hpos (hdivide m hm) (hdivide n hn) hquotient
      have hr := digitChar_inj (Nat.mod_lt m (by decide)) (Nat.mod_lt n (by decide))
        (List.singleton_inj.1 hlast)
      omega

/-- **Hexadecimal digits** of a fixed number tell where they end and what they stand for. -/
theorem hexadecimal_append_inj {r r' : List Char} (h : 0 < width) (hm : m < 16 ^ width)
    (hn : n < 16 ^ width) (heq : hexadecimal width m ++ r = hexadecimal width n ++ r') :
    m = n ∧ r = r' := by
  have hlength : (hexadecimal width m).length = (hexadecimal width n).length := by
    rw [length_hexadecimal h hm, length_hexadecimal h hn]
  obtain ⟨hdigits, hrest⟩ := List.append_inj heq hlength
  exact ⟨hexadecimal_inj h hm hn hdigits, hrest⟩

end SiteTemplates.Text
