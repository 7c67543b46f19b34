import SiteTemplates.Fingerprint.Canonical
import SiteTemplates.Proofs.Text.Hexadecimal

/-!
# Quoted texts can be told apart

A text in quotes tells where it ends and which text it is, whatever follows it
(`canonicalText_append_inj`).  The characters are written as a prefix code: a character stands for
itself, or for another one after a backslash, or its units of sixteen bits are numbered
(`canonicalChar_cases`).  One unit cannot be taken for the first of two, since the numbers that
begin a pair are no characters by themselves.
-/

namespace SiteTemplates

open Text

variable {c d : Char} {m n : Nat} {r r' : List Char}

def unitEscapes (n : Nat) : List Char :=
  if n < 0x10000 then unitEscape n
  else
    unitEscape (0xD800 + (n - 0x10000) / 0x400) ++ unitEscape (0xDC00 + (n - 0x10000) % 0x400)

/-- The character that a letter after a backslash stands for. -/
def unescaped (c : Char) : Char :=
  if c = 'n' then '\n' else if c = 'r' then '\r' else if c = 't' then '\t'
  else if c = 'f' then Char.ofNat 12 else if c = 'b' then Char.ofNat 8 else c

theorem canonicalChar_cases (c : Char) :
    (canonicalChar c = [c] ∧ c ≠ '"' ∧ c ≠ '\\') ∨
      (∃ x, canonicalChar c = ['\\', x] ∧ x ≠ 'u' ∧ c = unescaped x) ∨
      canonicalChar c = unitEscapes c.toNat := by
  have hnumber : ∀ k, c.toNat = k → c = Char.ofNat k := by
    rintro k rfl
    exact (Char.ofNat_toNat c).symm
  unfold canonicalChar
  dsimp only
  split
  · rename_i h
    rcases h with rfl | rfl
    · exact .inr (.inl ⟨'"', rfl, by decide, rfl⟩)
    · exact .inr (.inl ⟨'\\', rfl, by decide, rfl⟩)
  rename_i hquote
  rw [not_or] at hquote
  split
  · rename_i h
    exact .inr (.inl ⟨'n', rfl, by decide, h⟩)
  split
  · rename_i h
    exact .inr (.inl ⟨'r', rfl, by decide, h⟩)
  split
  · rename_i h
    exact .inr (.inl ⟨'t', rfl, by decide, h⟩)
  split
  · rename_i h
    exact .inr (.inl ⟨'f', rfl, by decide, hnumber 12 h⟩)
  split
  · rename_i h
    exact .inr (.inl ⟨'b', rfl, by decide, hnumber 8 h⟩)
  split
  · exact .inl ⟨rfl, hquote⟩
  · exact .inr (.inr rfl)

/-! ### Numbered units -/

theorem unitEscape_append_inj (hm : m < 0x10000) (hn : n < 0x10000)
    (h : unitEscape m ++ r = unitEscape n ++ r') : m = n ∧ r = r' := by
  have hdigits : hexadecimal 4 m ++ r = hexadecimal 4 n ++ r' :=
    (List.cons.inj (List.cons.inj h).2).2
  exact hexadecimal_append_inj (by decide) hm hn hdigits

theorem exists_unitEscapes_eq (n : Nat) : ∃ s, unitEscapes n = '\\' :: 'u' :: s := by
  have hunit : ∀ k, unitEscape k = '\\' :: 'u' :: hexadecimal 4 k := fun k => rfl
  unfold unitEscapes
  split
  · exact ⟨_, hunit n⟩
  · rw [hunit, List.cons_append, List.cons_append]
    exact ⟨_, rfl⟩

/-- The units of a character tell which one it is. -/
theorem unitEscapes_append_inj (h : unitEscapes c.toNat ++ r = unitEscapes d.toNat ++ r') :
    c = d ∧ r = r' := by
  have hvalid : ∀ c : Char, c.toNat < 0xD800 ∨ 0xDFFF < c.toNat ∧ c.toNat < 0x110000 :=
    fun c => c.valid
  have hc := hvalid c
  have hd := hvalid d
  have hchar : c.toNat = d.toNat → c = d := fun h => by
    rw [← Char.ofNat_toNat c, h, Char.ofNat_toNat]
  unfold unitEscapes at h
  split at h <;> split at h
  · obtain ⟨hunit, hrest⟩ := unitEscape_append_inj (by omega) (by omega) h
    exact ⟨hchar hunit, hrest⟩
  · rw [List.append_assoc] at h
    obtain ⟨hunit, -⟩ := unitEscape_append_inj (by omega) (by omega) h
    omega
  · rw [List.append_assoc] at h
    obtain ⟨hunit, -⟩ := unitEscape_append_inj (by omega) (by omega) h
    omega
  · rw [List.append_assoc, List.append_assoc] at h
    obtain ⟨hhigh, hlow⟩ := unitEscape_append_inj (by omega) (by omega) h
    obtain ⟨hlow, hrest⟩ := unitEscape_append_inj (by omega) (by omega) hlow
    exact ⟨hchar (by omega), hrest⟩

/-! ### Characters and texts -/

/-- No character begins like another one. -/
theorem canonicalChar_append_inj (h : canonicalChar c ++ r = canonicalChar d ++ r') :
    c = d ∧ r = r' := by
  obtain ⟨s, hs⟩ := exists_unitEscapes_eq c.toNat
  obtain ⟨t, ht⟩ := exists_unitEscapes_eq d.toNat
  rcases canonicalChar_cases c with ⟨hc, -, hc'⟩ | ⟨x, hc, hx, hcx⟩ | hc <;>
    rcases canonicalChar_cases d with ⟨hd, -, hd'⟩ | ⟨y, hd, hy, hdy⟩ | hd <;>
    rw [hc, hd] at h
  · exact List.cons.inj h
  · exact absurd (List.cons.inj h).1 hc'
  · rw [ht] at h
    exact absurd (List.cons.inj h).1 hc'
  · exact absurd (List.cons.inj h).1.symm hd'
  · obtain ⟨hxy, hrest⟩ := List.cons.inj (List.cons.inj h).2
    exact ⟨by rw [hcx, hdy, hxy], hrest⟩
  · rw [ht] at h
    exact absurd (List.cons.inj (List.cons.inj h).2).1 hx
  · rw [hs] at h
    exact absurd (List.cons.inj h).1.symm hd'
  · rw [hs] at h
    exact absurd (List.cons.inj (List.cons.inj h).2).1.symm hy
  · exact unitEscapes_append_inj h

theorem quote_ne_canonicalChar (c : Char) (r r' : List Char) :
    '"' :: r ≠ canonicalChar c ++ r' := by
  intro h
  rcases canonicalChar_cases c with ⟨hc, hquote, -⟩ | ⟨x, hc, -, -⟩ | hc <;> rw [hc] at h
  · exact hquote (List.cons.inj h).1.symm
  · exact absurd (List.cons.inj h).1 (by decide)
  · obtain ⟨s, hs⟩ := exists_unitEscapes_eq c.toNat
    rw [hs] at h
    exact absurd (List.cons.inj h).1 (by decide)

theorem canonicalText_append (s r : List Char) :
    canonicalText s ++ r = '"' :: (s.flatMap canonicalChar ++ '"' :: r) := by
  simp [canonicalText]

/-- **A quoted text** tells where it ends and which text it is. -/
theorem canonicalText_append_inj {s t : List Char}
    (h : canonicalText s ++ r = canonicalText t ++ r') : s = t ∧ r = r' := by
  rw [canonicalText_append, canonicalText_append] at h
  have hbody := (List.cons.inj h).2
  clear h
  induction s generalizing t with
  | nil =>
    cases t with
    | nil => exact ⟨rfl, (List.cons.inj hbody).2⟩
    | cons d t =>
      rw [List.flatMap_cons, List.append_assoc] at hbody
      exact absurd hbody (quote_ne_canonicalChar d _ _)
  | cons c s ih =>
    cases t with
    | nil =>
      rw [List.flatMap_cons, List.append_assoc] at hbody
      exact absurd hbody.symm (quote_ne_canonicalChar c _ _)
    | cons d t =>
      rw [List.flatMap_cons, List.flatMap_cons, List.append_assoc, List.append_assoc] at hbody
      obtain ⟨rfl, hrest⟩ := canonicalChar_append_inj hbody
      obtain ⟨rfl, hr⟩ := ih hrest
      exact ⟨rfl, hr⟩

end SiteTemplates
