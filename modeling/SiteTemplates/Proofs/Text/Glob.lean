import SiteTemplates.Proofs.Text.Parts
import SiteTemplates.Text.Glob

/-!
# What a pattern with stars matches

A key matches a pattern if it consists of the parts of the pattern in order, with any texts between
them (`Spans`).  The match looks for each part at its first place after the one before.  That loses
nothing: a part that is found earlier leaves more of the key for the parts behind it, and the next
part may start anywhere in what is left (`afterFirst?_append`).  So what is found from left to right
is all that there is (`globMatches_iff`).

A pattern that begins and ends with a star asks only that its parts are in the key, in order and
without overlap (`InOrder`, `globMatches_starred`); where there is no star between, that is to be a
part of the key.
-/

namespace SiteTemplates.Text

variable {part s t : List Char} {parts : List (List Char)}

/-- The text consists of the parts in order, from its start to its end, with any texts between
them. -/
inductive Spans : List (List Char) → List Char → Prop
  | last (part : List Char) : Spans [part] part
  | gap (part between : List Char) {parts : List (List Char)} {s : List Char} (h : Spans parts s) :
      Spans (part :: parts) (part ++ between ++ s)

/-- The parts are in the text, in order and without overlap. -/
inductive InOrder : List (List Char) → List Char → Prop
  | nil (s : List Char) : InOrder [] s
  | cons (before part : List Char) {parts : List (List Char)} {after : List Char}
      (h : InOrder parts after) : InOrder (part :: parts) (before ++ part ++ after)

theorem spans_singleton_iff : Spans [part] s ↔ s = part := by
  constructor
  · rintro (_ | ⟨_, _, h⟩)
    · rfl
    · cases h
  · rintro rfl
    exact .last s

theorem spans_cons_iff (h : parts ≠ []) :
    Spans (part :: parts) s ↔ ∃ between t, s = part ++ between ++ t ∧ Spans parts t := by
  constructor
  · rintro (_ | ⟨_, between, ht⟩)
    · exact absurd rfl h
    · exact ⟨between, _, rfl, ht⟩
  · rintro ⟨between, t, rfl, ht⟩
    exact .gap part between ht

/-! ### The first place of a part -/

theorem eq_of_afterFirst? {rest : List Char} (h : afterFirst? part s = some rest) :
    ∃ before, s = before ++ part ++ rest := by
  induction s with
  | nil =>
    rw [afterFirst?] at h
    split at h
    · rename_i hpart
      cases h
      exact ⟨[], by simpa using (List.isEmpty_iff.1 hpart).symm⟩
    · cases h
  | cons c s ih =>
    rw [afterFirst?] at h
    split at h
    · rename_i hprefix
      cases h
      obtain ⟨after, hafter⟩ := List.isPrefixOf_iff_prefix.1 hprefix
      refine ⟨[], ?_⟩
      rw [← hafter, List.drop_left, List.nil_append]
    · obtain ⟨before, hs⟩ := ih h
      exact ⟨c :: before, congrArg (c :: ·) hs⟩

/-- **The first place** of a part leaves at least as much behind it as any other place. -/
theorem afterFirst?_append (before part t : List Char) :
    ∃ more, afterFirst? part (before ++ part ++ t) = some (more ++ t) := by
  induction before with
  | nil =>
    refine ⟨[], ?_⟩
    rw [List.nil_append, List.nil_append]
    cases hs : part ++ t with
    | nil =>
      obtain ⟨rfl, rfl⟩ := List.append_eq_nil_iff.1 hs
      rfl
    | cons c s =>
      have hprefix : part.isPrefixOf (c :: s) = true :=
        List.isPrefixOf_iff_prefix.2 ⟨t, hs⟩
      rw [afterFirst?, if_pos hprefix, ← hs, List.drop_left]
  | cons c before ih =>
    rw [List.cons_append, List.cons_append, afterFirst?]
    split
    · refine ⟨(c :: before ++ part).drop part.length, ?_⟩
      have hlength : part.length ≤ (c :: before ++ part).length := by
        rw [List.length_append]
        omega
      rw [← List.drop_append_of_le_length hlength]
      rfl
    · exact ih

theorem holdsParts_cons_iff (h : parts ≠ []) : holdsParts s (part :: parts) = true ↔
    ∃ rest, afterFirst? part s = some rest ∧ holdsParts rest parts = true := by
  cases parts with
  | nil => exact absurd rfl h
  | cons next parts =>
    rw [holdsParts]
    · cases afterFirst? part s <;> simp
    · exact nofun

/-- The parts are found from left to right if they are there at all. -/
theorem holdsParts_iff (h : parts ≠ []) :
    holdsParts s parts = true ↔ ∃ before t, s = before ++ t ∧ Spans parts t := by
  induction parts generalizing s with
  | nil => exact absurd rfl h
  | cons part parts ih =>
    cases parts with
    | nil =>
      rw [holdsParts, List.isSuffixOf_iff_suffix]
      simp only [spans_singleton_iff, exists_eq_right]
      exact ⟨fun ⟨before, hs⟩ => ⟨before, hs.symm⟩, fun ⟨before, hs⟩ => ⟨before, hs.symm⟩⟩
    | cons next parts =>
      have hne : next :: parts ≠ [] := List.cons_ne_nil next parts
      rw [holdsParts_cons_iff hne]
      constructor
      · rintro ⟨rest, hrest, hholds⟩
        obtain ⟨before, rfl⟩ := eq_of_afterFirst? hrest
        obtain ⟨between, t, rfl, ht⟩ := (ih hne).1 hholds
        refine ⟨before, part ++ between ++ t, ?_, .gap part between ht⟩
        simp only [List.append_assoc]
      · rintro ⟨before, u, rfl, hu⟩
        obtain ⟨between, t, rfl, ht⟩ := (spans_cons_iff hne).1 hu
        obtain ⟨more, hrest⟩ := afterFirst?_append before part (between ++ t)
        have hs : before ++ (part ++ between ++ t) = before ++ part ++ (between ++ t) := by
          simp only [List.append_assoc]
        rw [hs]
        exact ⟨_, hrest, (ih hne).2 ⟨more ++ between, t, by rw [List.append_assoc], ht⟩⟩

/-! ### Patterns -/

/-- **What a pattern matches**: the texts that consist of its parts in order. -/
theorem globMatches_iff (pattern key : List Char) :
    globMatches pattern key = true ↔ Spans (splitAll '*' pattern) key := by
  unfold globMatches
  cases hsplit : splitAll '*' pattern with
  | nil => exact absurd hsplit (splitAll_ne_nil '*' pattern)
  | cons part parts =>
    cases parts with
    | nil => rw [spans_singleton_iff, beq_iff_eq, eq_comm]
    | cons next parts =>
      have hne : next :: parts ≠ [] := List.cons_ne_nil next parts
      rw [Bool.and_eq_true, List.isPrefixOf_iff_prefix, spans_cons_iff hne, holdsParts_iff hne]
      constructor
      · rintro ⟨⟨after, rfl⟩, between, t, hafter, ht⟩
        rw [List.drop_left] at hafter
        exact ⟨between, t, by rw [hafter, List.append_assoc], ht⟩
      · rintro ⟨between, t, rfl, ht⟩
        rw [List.append_assoc]
        refine ⟨List.prefix_append _ _, between, t, ?_, ht⟩
        rw [List.drop_left]

/-! ### Patterns between two stars -/

theorem splitAllFrom_concat (separator : Char) (part : List Char) (done : List (List Char))
    (s : List Char) : splitAllFrom separator part done (s ++ [separator]) =
      splitAllFrom separator part done s ++ [[]] := by
  induction s generalizing part done with
  | nil => simp [splitAllFrom]
  | cons c s ih =>
    rw [List.cons_append, splitAllFrom, splitAllFrom]
    split
    · exact ih [] (part.reverse :: done)
    · exact ih (c :: part) done

theorem splitAll_starred (s : List Char) :
    splitAll '*' ('*' :: s ++ ['*']) = [] :: (splitAll '*' s ++ [[]]) := by
  have hfirst : splitAll '*' ('*' :: s) = [] :: splitAll '*' s := by
    rw [splitAll, splitAllFrom, if_pos rfl, splitAllFrom_done]
    rfl
  rw [splitAll, splitAllFrom_concat, ← splitAll, hfirst, List.cons_append]

theorem splitAll_of_not_mem {separator : Char} (h : separator ∉ s) :
    splitAll separator s = [s] := by
  have hfrom : ∀ part, splitAllFrom separator part [] s = [part.reverse ++ s] := by
    induction s with
    | nil => simp [splitAllFrom]
    | cons c s ih =>
      intro part
      rw [List.mem_cons, not_or] at h
      rw [splitAllFrom, if_neg (Ne.symm h.1), ih h.2]
      simp
  exact hfrom []

theorem inOrder_cons_iff : InOrder (part :: parts) s ↔
    ∃ before after, s = before ++ part ++ after ∧ InOrder parts after := by
  constructor
  · rintro ⟨_⟩
    rename_i before after h
    exact ⟨before, after, rfl, h⟩
  · rintro ⟨before, after, rfl, h⟩
    exact .cons before part h

/-- Parts that may stand anywhere, but in order. -/
theorem spans_starred_iff : Spans ([] :: (parts ++ [[]])) s ↔ InOrder parts s := by
  have hne : ∀ parts : List (List Char), parts ++ [[]] ≠ [] := by simp
  rw [spans_cons_iff (hne parts)]
  simp only [List.nil_append]
  induction parts generalizing s with
  | nil =>
    simp only [List.nil_append, spans_singleton_iff, exists_eq_right, List.append_nil]
    exact ⟨fun _ => .nil s, fun _ => ⟨s, rfl⟩⟩
  | cons part parts ih =>
    rw [inOrder_cons_iff]
    constructor
    · rintro ⟨before, u, rfl, hu⟩
      obtain ⟨between, t, rfl, ht⟩ := (spans_cons_iff (hne parts)).1 hu
      refine ⟨before, between ++ t, by simp only [List.append_assoc], ih.1 ⟨between, t, rfl, ht⟩⟩
    · rintro ⟨before, after, rfl, h⟩
      obtain ⟨between, t, rfl, ht⟩ := ih.2 h
      refine ⟨before, part ++ between ++ t, by simp only [List.append_assoc], ?_⟩
      exact .gap part between ht

theorem globMatches_starred (s key : List Char) :
    globMatches ('*' :: s ++ ['*']) key = true ↔ InOrder (splitAll '*' s) key := by
  rw [globMatches_iff, splitAll_starred, spans_starred_iff]

/-- Without stars there is one part, which has to be somewhere in the text. -/
theorem inOrder_splitAll_iff (h : '*' ∉ s) : InOrder (splitAll '*' s) t ↔ s <:+: t := by
  rw [splitAll_of_not_mem h, inOrder_cons_iff]
  constructor
  · rintro ⟨before, after, rfl, -⟩
    exact ⟨before, after, rfl⟩
  · rintro ⟨before, after, rfl⟩
    exact ⟨before, after, rfl, .nil after⟩

theorem InOrder.prepend (h : InOrder parts s) (before : List Char) :
    InOrder parts (before ++ s) := by
  cases h with
  | nil s => exact .nil _
  | cons before' part h =>
    rw [← List.append_assoc, ← List.append_assoc]
    exact .cons (before ++ before') part h

theorem InOrder.append (h : InOrder parts s) (after : List Char) : InOrder parts (s ++ after) := by
  induction h with
  | nil s => exact .nil _
  | cons before part h ih =>
    rw [List.append_assoc]
    exact .cons before part ih

/-- The parts of a text are in it, and in every text that holds it. -/
theorem inOrder_splitAll_of_infix {separator : Char} (h : s <:+: t) :
    InOrder (splitAll separator s) t := by
  have hself : ∀ part, InOrder (splitAllFrom separator part [] s) (part.reverse ++ s) := by
    clear h
    induction s with
    | nil =>
      intro part
      exact .cons [] part.reverse (.nil [])
    | cons c s ih =>
      intro part
      rw [splitAllFrom]
      split
      · rw [splitAllFrom_done]
        exact .cons [] part.reverse ((ih []).prepend [c])
      · have hpart : part.reverse ++ c :: s = (c :: part).reverse ++ s := by simp
        rw [hpart]
        exact ih (c :: part)
  obtain ⟨before, after, rfl⟩ := h
  exact ((hself []).prepend before).append after

end SiteTemplates.Text
