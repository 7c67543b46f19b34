import SiteTemplates.Text.Split

/-!
# The parts of a text

The parts of a text are what stands between its separators: joined by separators they give the text
back (`joined_splitAll`), and none of them holds a separator (`not_mem_of_mem_splitAll`).
-/

namespace SiteTemplates.Text

variable {separator : Char} {s part : List Char}

theorem splitAllFrom_done (separator : Char) (part : List Char) (done : List (List Char))
    (s : List Char) :
    splitAllFrom separator part done s = done.reverse ++ splitAllFrom separator part [] s := by
  induction s generalizing part done with
  | nil => simp [splitAllFrom]
  | cons c s ih =>
    rw [splitAllFrom, splitAllFrom]
    split
    · rw [ih [] (part.reverse :: done), ih [] [part.reverse]]
      simp
    · exact ih (c :: part) done

theorem splitAll_eq_splitOn (separator : Char) (s : List Char) :
    splitAll separator s = s.splitOn separator := by
  have hfrom : ∀ part, splitAllFrom separator part [] s =
      (s.splitOn separator).modifyHead (part.reverse ++ ·) := by
    induction s with
    | nil => simp [splitAllFrom]
    | cons c s ih =>
      intro part
      rw [splitAllFrom, List.splitOn, List.splitOnP_cons_eq_if_modifyHead, ← List.splitOn]
      by_cases hc : c = separator
      · rw [if_pos hc, if_pos (beq_iff_eq.2 hc), splitAllFrom_done, ih []]
        cases s.splitOn separator <;> simp
      · rw [if_neg hc, if_neg (by simpa using hc), ih (c :: part)]
        cases s.splitOn separator <;> simp
  have h := hfrom []
  rw [splitAll, h]
  cases s.splitOn separator <;> simp

theorem splitAll_ne_nil (separator : Char) (s : List Char) : splitAll separator s ≠ [] := by
  rw [splitAll_eq_splitOn]
  exact List.splitOnP_ne_nil _ s

theorem joined_splitAll (separator : Char) (s : List Char) :
    joined [separator] (splitAll separator s) = s := by
  rw [joined, splitAll_eq_splitOn, List.intercalate_splitOn]

theorem intercalate_cons {parts : List (List Char)} (hne : parts ≠ []) :
    [separator].intercalate (part :: parts) =
      part ++ separator :: [separator].intercalate parts := by
  rw [List.intercalate_cons_of_ne_nil hne, List.append_assoc, List.singleton_append]

theorem joined_cons {parts : List (List Char)} (hne : parts ≠ []) :
    joined [separator] (part :: parts) = part ++ separator :: joined [separator] parts :=
  intercalate_cons hne

/-- What separates the parts of a text is in none of them. -/
theorem not_separates_of_mem_splitOnP {separates : Char → Bool} (h : part ∈ s.splitOnP separates) :
    ∀ c ∈ part, separates c = false := by
  induction s generalizing part with
  | nil =>
    obtain rfl := List.mem_singleton.1 h
    exact fun c hc => absurd hc List.not_mem_nil
  | cons d s ih =>
    rw [List.splitOnP_cons_eq_if_modifyHead] at h
    by_cases hd : separates d = true
    · rw [if_pos hd] at h
      rcases List.mem_cons.1 h with rfl | h
      · exact fun c hc => absurd hc List.not_mem_nil
      · exact ih h
    · obtain ⟨first, rest, hsplit⟩ := List.exists_cons_of_ne_nil (List.splitOnP_ne_nil separates s)
      rw [if_neg hd, hsplit, List.modifyHead_cons] at h
      rw [hsplit] at ih
      rcases List.mem_cons.1 h with rfl | h
      · exact List.forall_mem_cons.2 ⟨Bool.eq_false_iff.2 hd, ih List.mem_cons_self⟩
      · exact ih (List.mem_cons_of_mem _ h)

theorem not_mem_of_mem_splitAll (h : part ∈ splitAll separator s) : separator ∉ part := by
  rw [splitAll_eq_splitOn, List.splitOn] at h
  intro hmem
  simpa using not_separates_of_mem_splitOnP h separator hmem

end SiteTemplates.Text
