import SiteTemplates.Text.Blank
import SiteTemplates.Text.Quotation

/-!
# Trimmed and unquoted text

Taking blanks off the front and off the end can be done in either order (`trimStart_trimEnd`), and a
text that lost the blanks at its end is trimmed to the same (`trim_trimEnd`).  Characters that are
neither blanks nor quotes stay (`mem_trim`, `mem_unquote`).
-/

namespace SiteTemplates.Text

variable {c : Char} {s : List Char}

theorem trimStart_cons_of_blank (h : isBlank c = true) : trimStart (c :: s) = trimStart s :=
  List.dropWhile_cons_of_pos h

theorem trimStart_cons_of_not_blank (h : isBlank c = false) : trimStart (c :: s) = c :: s :=
  List.dropWhile_cons_of_neg (by simp [h])

theorem trimStart_append_of_not_blank (s : List Char) (rest : List Char)
    (h : isBlank c = false) : trimStart (s ++ c :: rest) = trimStart s ++ c :: rest := by
  induction s with
  | nil => exact trimStart_cons_of_not_blank h
  | cons x s ih =>
    unfold trimStart at ih ⊢
    rw [List.cons_append, List.dropWhile_cons, List.dropWhile_cons]
    split
    · exact ih
    · rfl

theorem trimEnd_cons_of_not_blank (h : isBlank c = false) : trimEnd (c :: s) = c :: trimEnd s := by
  have hr := trimStart_append_of_not_blank s.reverse [] h
  rw [trimEnd, List.reverse_cons, ← trimStart, hr, List.reverse_append]
  rfl

theorem trimEnd_cons_of_blank (h : isBlank c = true) :
    trimEnd (c :: s) = if trimEnd s = [] then [] else c :: trimEnd s := by
  rw [trimEnd, trimEnd, List.reverse_cons, List.dropWhile_append]
  cases hs : s.reverse.dropWhile isBlank with
  | nil => simp [h]
  | cons x xs => simp

theorem trimEnd_trimEnd (s : List Char) : trimEnd (trimEnd s) = trimEnd s := by
  induction s with
  | nil => rfl
  | cons c s ih =>
    by_cases hc : isBlank c = true
    · rw [trimEnd_cons_of_blank hc]
      split
      · rfl
      · rename_i hne
        rw [trimEnd_cons_of_blank hc, ih, if_neg hne]
    · rw [Bool.not_eq_true] at hc
      rw [trimEnd_cons_of_not_blank hc, trimEnd_cons_of_not_blank hc, ih]

/-- The blanks at the two ends can be taken off in either order. -/
theorem trimStart_trimEnd (s : List Char) : trimStart (trimEnd s) = trimEnd (trimStart s) := by
  induction s with
  | nil => rfl
  | cons c s ih =>
    by_cases hc : isBlank c = true
    · rw [trimStart_cons_of_blank hc, ← ih, trimEnd_cons_of_blank hc]
      split
      · rename_i hs
        rw [hs]
      · exact trimStart_cons_of_blank hc
    · rw [Bool.not_eq_true] at hc
      rw [trimStart_cons_of_not_blank hc, trimEnd_cons_of_not_blank hc,
        trimStart_cons_of_not_blank hc]

theorem trim_trimEnd (s : List Char) : trim (trimEnd s) = trim s := by
  rw [trim, trimStart_trimEnd, trimEnd_trimEnd, trim]

/-- What begins with a character after trimming begins with it after taking off the front. -/
theorem trimStart_of_trim_eq_cons {rest : List Char} (h : trim s = c :: rest) :
    ∃ body, trimStart s = c :: body ∧ rest = trimEnd body := by
  cases hs : trimStart s with
  | nil => simp [trim, hs, trimEnd] at h
  | cons x body =>
    have hx : isBlank x = false := by
      have := List.head?_dropWhile_not isBlank s
      rw [show s.dropWhile isBlank = x :: body from hs] at this
      simpa using this
    rw [trim, hs, trimEnd_cons_of_not_blank hx] at h
    obtain ⟨rfl, rfl⟩ := List.cons.inj h
    exact ⟨body, rfl, rfl⟩

/-! ### What stays -/

theorem mem_trimStart (h : isBlank c = false) : c ∈ trimStart s ↔ c ∈ s := by
  induction s with
  | nil => rfl
  | cons x s ih =>
    by_cases hx : isBlank x = true
    · have hne : c ≠ x := by rintro rfl; simp [h] at hx
      rw [trimStart_cons_of_blank hx, ih, List.mem_cons, or_iff_right hne]
    · rw [Bool.not_eq_true] at hx
      rw [trimStart_cons_of_not_blank hx]

theorem mem_trimEnd (h : isBlank c = false) : c ∈ trimEnd s ↔ c ∈ s := by
  rw [trimEnd, List.mem_reverse, ← trimStart, mem_trimStart h, List.mem_reverse]

theorem mem_trim (h : isBlank c = false) : c ∈ trim s ↔ c ∈ s := by
  rw [trim, mem_trimEnd h, mem_trimStart h]

theorem mem_unquote (h : isQuote c = false) : c ∈ unquote s ↔ c ∈ s := by
  cases s with
  | nil => rfl
  | cons q s =>
    rw [unquote]
    split
    · rename_i hq
      have hne : c ≠ q := by rintro rfl; simp [h] at hq
      obtain ⟨before, rfl⟩ := List.getLast?_eq_some_iff.1 hq.2
      simp [hne]
    · rfl

end SiteTemplates.Text
