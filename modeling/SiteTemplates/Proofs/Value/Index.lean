import SiteTemplates.Value.Path

/-!
# Names that look like an index

A path may go into a list by a name of digits.  Characters such as superscripts count as digits
there, but an integer cannot be read from them, nor from too many digits; so a name may look like an
index and be none (`readInteger?_eq_none_iff`).  A path strays where such a name meets a list, and
that is the only way in which looking it up fails (`resolve?_eq_none_iff`).
-/

namespace SiteTemplates

open Text

/-! ### Integers of digits -/

def blankCodes : List Nat :=
  [9, 10, 11, 12, 13, 28, 29, 30, 31, 32, 0x85, 0xA0, 0x1680, 0x2000, 0x2001, 0x2002, 0x2003,
    0x2004, 0x2005, 0x2006, 0x2007, 0x2008, 0x2009, 0x200A, 0x2028, 0x2029, 0x202F, 0x205F, 0x3000]

theorem mem_blankCodes {c : Char} (h : isBlank c = true) : c.toNat ∈ blankCodes := by
  simp only [isBlank, Bool.or_eq_true, Bool.and_eq_true, decide_eq_true_eq, beq_iff_eq] at h
  simp only [blankCodes, List.mem_cons, List.not_mem_nil, or_false]
  omega

/-- A digit of any kind is no blank. -/
theorem isBlank_of_isDigit {c : Char} (h : isDigit c = true) : isBlank c = false := by
  have hcodes : ∀ n ∈ blankCodes,
      ((digitIn n decimalRanges).isSome || inRanges n digitSymbolRanges) = false := by decide
  cases hb : isBlank c with
  | false => rfl
  | true => exact (Bool.false_ne_true ((hcodes _ (mem_blankCodes hb)).symm.trans h)).elim

theorem dropWhile_surroundsInteger {s : List Char} (h : ∀ c ∈ s, isDigit c = true) :
    s.dropWhile surroundsInteger = s := by
  cases s with
  | nil => rfl
  | cons c s =>
    have hc : surroundsInteger c = false := by
      rw [surroundsInteger, isBlank_of_isDigit (h c List.mem_cons_self), Bool.false_and]
    rw [List.dropWhile_cons, hc, if_neg Bool.false_ne_true]

theorem digitValues?_eq_none {c : Char} (hc : c ≠ '_') (hd : decimal? c = none)
    {s : List Char} (hm : c ∈ s) (afterDigit : Bool) (done : List Nat) :
    digitValues? afterDigit done s = none := by
  induction s generalizing afterDigit done with
  | nil => cases hm
  | cons c' s ih =>
    rw [digitValues?]
    rcases List.mem_cons.1 hm with rfl | hm
    · rw [if_neg hc, hd]
    · split
      · split
        · exact ih hm false done
        · rfl
      · cases decimal? c' with
        | none => rfl
        | some d => exact ih hm true (d :: done)

theorem exists_digitValues? {s : List Char} (h : ∀ c ∈ s, (decimal? c).isSome = true)
    (done : List Nat) :
    ∃ ds, digitValues? true done s = some ds ∧ ds.length = done.length + s.length := by
  induction s generalizing done with
  | nil => exact ⟨done.reverse, rfl, List.length_reverse⟩
  | cons c s ih =>
    have hsome := h c List.mem_cons_self
    obtain ⟨d, hd⟩ := Option.isSome_iff_exists.1 hsome
    have hc : c ≠ '_' := by
      rintro rfl
      cases hd
    obtain ⟨ds, hds, hlength⟩ := ih (fun c hc => h c (List.mem_cons_of_mem _ hc)) (d :: done)
    refine ⟨ds, ?_, ?_⟩
    · rw [digitValues?, if_neg hc, hd]
      exact hds
    · rw [hlength, List.length_cons, List.length_cons]
      omega

theorem exists_digitValues?_start {s : List Char} (hs : s ≠ [])
    (h : ∀ c ∈ s, (decimal? c).isSome = true) :
    ∃ ds, digitValues? false [] s = some ds ∧ ds.length = s.length := by
  obtain ⟨c, s, rfl⟩ := List.exists_cons_of_ne_nil hs
  obtain ⟨ds, hds, hlength⟩ := exists_digitValues? h []
  refine ⟨ds, ?_, hlength.trans (Nat.zero_add _)⟩
  -- the mark for a digit before counts only if a low line comes first
  have hc : c ≠ '_' := by
    rintro rfl
    cases h '_' List.mem_cons_self
  rw [digitValues?, if_neg hc] at hds ⊢
  exact hds

theorem readNatural?_eq_none_iff {s : List Char} (hs : allDigits s = true) :
    readNatural? s = none ↔ (∃ c ∈ s, decimal? c = none) ∨ maxDigits < s.length := by
  simp only [allDigits, Bool.and_eq_true, Bool.not_eq_true', List.isEmpty_eq_false_iff,
    List.all_eq_true] at hs
  obtain ⟨hne, hdigits⟩ := hs
  by_cases hsome : ∀ c ∈ s, (decimal? c).isSome = true
  · obtain ⟨ds, hds, hlength⟩ := exists_digitValues?_start hne hsome
    have hnone : ¬ ∃ c ∈ s, decimal? c = none := by
      rintro ⟨c, hc, hd⟩
      have hc' := hsome c hc
      rw [hd] at hc'
      cases hc'
    simp only [readNatural?, hds, hlength, hnone, false_or, ite_eq_right_iff, reduceCtorEq,
      imp_false, Nat.not_le]
  · obtain ⟨c, hc, hd⟩ : ∃ c ∈ s, decimal? c = none := by
      simpa only [Classical.not_forall, Option.not_isSome_iff_eq_none, exists_prop] using hsome
    have hc' : c ≠ '_' := by
      rintro rfl
      cases hdigits '_' hc
    have hread : readNatural? s = none := by
      rw [readNatural?, digitValues?_eq_none hc' hd hc false []]
    exact iff_of_true hread (.inl ⟨c, hc, hd⟩)

/-- No integer can be read from digits of which one is no decimal digit, or of which there are too
many, and from all others one can. -/
theorem readInteger?_eq_none_iff {s : List Char} (hs : allDigits s = true) :
    readInteger? s = none ↔ (∃ c ∈ s, decimal? c = none) ∨ maxDigits < s.length := by
  have hdigits : ∀ c ∈ s, isDigit c = true := by
    rw [allDigits, Bool.and_eq_true] at hs
    exact List.all_eq_true.1 hs.2
  have hreverse : ∀ c ∈ s.reverse, isDigit c = true :=
    fun c hc => hdigits c (List.mem_reverse.1 hc)
  rw [readInteger?, dropWhile_surroundsInteger hdigits, dropWhile_surroundsInteger hreverse,
    List.reverse_reverse, ← readNatural?_eq_none_iff hs]
  unfold readSigned?
  split
  · cases hdigits '-' List.mem_cons_self
  · cases hdigits '+' List.mem_cons_self
  · cases readNatural? s <;> simp

namespace Value

/-! ### Paths that stray -/

def FalseIndex (name : List Char) : Prop :=
  allDigits name = true ∧ ((∃ c ∈ name, decimal? c = none) ∨ maxDigits < name.length)

/-- A path comes to a list by a name that looks like an index and is none. -/
def Strays (path : String) (scope : List (Value × Value)) : Prop :=
  ∃ before name after items, splitAll '.' path.toList = before ++ name :: after ∧
    walk? (map scope) before = some (list items) ∧ FalseIndex name

theorem step?_eq_none_iff {name : List Char} {v : Value} :
    step? name v = none ↔ ∃ items, v = list items ∧ FalseIndex name := by
  cases v with
  | list items =>
    simp only [step?, list.injEq, exists_eq_left', FalseIndex]
    by_cases hd : allDigits name = true
    · rw [if_pos hd, Option.map_eq_none_iff, readInteger?_eq_none_iff hd, and_iff_right hd]
    · simp only [hd, Bool.false_eq_true, if_false, reduceCtorEq, false_and]
  | _ => simp [step?]

theorem walk?_eq_none_iff {v : Value} {names : List (List Char)} :
    walk? v names = none ↔ ∃ before name after w, names = before ++ name :: after ∧
      walk? v before = some w ∧ step? name w = none := by
  constructor
  · intro h
    induction names generalizing v with
    | nil => cases h
    | cons name rest ih =>
      cases hs : step? name v with
      | none => exact ⟨[], name, rest, v, rfl, rfl, hs⟩
      | some u =>
        rw [walk?, hs] at h
        obtain ⟨before, name', after, w, rfl, hw, hstep⟩ := ih h
        refine ⟨name :: before, name', after, w, rfl, ?_, hstep⟩
        rw [walk?, hs]
        exact hw
  · rintro ⟨before, name, after, w, rfl, hw, hstep⟩
    induction before generalizing v with
    | nil =>
      cases hw
      rw [List.nil_append, walk?, hstep]
      rfl
    | cons first before ih =>
      rw [walk?] at hw
      obtain ⟨u, hu, hw⟩ := Option.bind_eq_some_iff.1 hw
      rw [List.cons_append, walk?, hu]
      exact ih hw

/-- **Looking a path up fails exactly if it strays.** -/
theorem resolve?_eq_none_iff {path : String} {scope : List (Value × Value)} :
    resolve? path scope = none ↔ Strays path scope := by
  rw [resolve?, walk?_eq_none_iff]
  constructor
  · rintro ⟨before, name, after, w, hsplit, hw, hstep⟩
    obtain ⟨items, rfl, hindex⟩ := step?_eq_none_iff.1 hstep
    exact ⟨before, name, after, items, hsplit, hw, hindex⟩
  · rintro ⟨before, name, after, items, hsplit, hw, hindex⟩
    exact ⟨before, name, after, list items, hsplit, hw, step?_eq_none_iff.2 ⟨items, rfl, hindex⟩⟩

end Value

end SiteTemplates
