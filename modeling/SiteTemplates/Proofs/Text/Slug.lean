import Mathlib.Data.List.DropRight
import SiteTemplates.Proofs.Text.Parts
import SiteTemplates.Text.Slug

/-!
# Slugs are normal forms

The words of a text are its longest stretches of plain lower-case letters and digits (`slugWords`).
A slug is made of such words with single hyphens between them (`IsSlug`).

Putting one hyphen for every other stretch and taking the hyphens off both ends joins the words by
hyphens (`trimHyphens_hyphenateFrom`).  The hyphens at the end are what takes care: a hyphen that is
written behind a word may turn out to be the last character, so the word that has been read so far
stands in front of what is proved about the rest.  A slug is in lower case, and its words are those
that it is joined from, so it is its own slug (`slug_normal_form`).
-/

namespace SiteTemplates.Text

variable {c : Char} {s w : List Char}

/-- The words of a text: its longest stretches of plain lower-case letters and digits. -/
def slugWords (s : List Char) : List (List Char) :=
  (s.splitOnP (fun c => !isSlugChar c)).filter (fun w => !w.isEmpty)

/-- One word or several, with single hyphens between them. -/
inductive IsSlug : List Char → Prop
  | word {w : List Char} (hne : w ≠ []) (hw : ∀ c ∈ w, isSlugChar c = true) : IsSlug w
  | join {w : List Char} (hne : w ≠ []) (hw : ∀ c ∈ w, isSlugChar c = true) {s : List Char}
      (h : IsSlug s) : IsSlug (w ++ '-' :: s)

/-! ### Words -/

theorem slugWords_word (hne : w ≠ []) (hw : ∀ c ∈ w, isSlugChar c = true) : slugWords w = [w] := by
  rw [slugWords, List.splitOnP_eq_singleton (fun c hc => by simp [hw c hc])]
  simp [hne]

theorem slugWords_append_hyphen (hne : w ≠ []) (hw : ∀ c ∈ w, isSlugChar c = true)
    (s : List Char) : slugWords (w ++ '-' :: s) = w :: slugWords s := by
  rw [slugWords, List.splitOnP_append_cons_of_forall_mem (fun c hc => by simp [hw c hc]) '-' rfl]
  simp [slugWords, hne]

theorem word_of_mem_slugWords (h : w ∈ slugWords s) :
    w ≠ [] ∧ ∀ c ∈ w, isSlugChar c = true := by
  obtain ⟨hsplit, hne⟩ := List.mem_filter.1 h
  exact ⟨by simpa using hne, fun c hc => by simpa using not_separates_of_mem_splitOnP hsplit c hc⟩

theorem intercalate_cons_ne_nil (hne : w ≠ []) (ws : List (List Char)) :
    ['-'].intercalate (w :: ws) ≠ [] := by
  cases ws with
  | nil => rwa [List.intercalate_singleton]
  | cons u us => simp [List.intercalate_cons_cons]

/-- Words that are joined make a slug. -/
theorem isSlug_intercalate {ws : List (List Char)}
    (h : ∀ w ∈ ws, w ≠ [] ∧ ∀ c ∈ w, isSlugChar c = true) :
    ['-'].intercalate ws = [] ∨ IsSlug (['-'].intercalate ws) := by
  induction ws with
  | nil => exact .inl rfl
  | cons w ws ih =>
    obtain ⟨⟨hne, hw⟩, hws⟩ := List.forall_mem_cons.1 h
    cases ws with
    | nil =>
      rw [List.intercalate_singleton]
      exact .inr (.word hne hw)
    | cons u us =>
      have hslug := (ih hws).resolve_left (intercalate_cons_ne_nil (hws u List.mem_cons_self).1 us)
      rw [intercalate_cons (List.cons_ne_nil u us)]
      exact .inr (.join hne hw hslug)

theorem IsSlug.slugWords_ne_nil (h : IsSlug s) : slugWords s ≠ [] := by
  cases h with
  | word hne hw => simp [slugWords_word hne hw]
  | join hne hw h => simp [slugWords_append_hyphen hne hw]

/-- A slug is joined from its words. -/
theorem IsSlug.intercalate_slugWords (h : IsSlug s) : ['-'].intercalate (slugWords s) = s := by
  induction h with
  | word hne hw => rw [slugWords_word hne hw, List.intercalate_singleton]
  | join hne hw h ih =>
    rw [slugWords_append_hyphen hne hw, intercalate_cons h.slugWords_ne_nil, ih]

/-! ### Hyphens -/

theorem hyphenateFrom_eq (inside : Bool) (done s : List Char) :
    hyphenateFrom inside done s = done.reverse ++ hyphenateFrom inside [] s := by
  induction s generalizing inside done with
  | nil => simp [hyphenateFrom]
  | cons c s ih =>
    rw [hyphenateFrom, hyphenateFrom]
    split
    · rw [ih false (c :: done), ih false [c]]
      simp
    · split
      · exact ih true done
      · rw [ih true ('-' :: done), ih true ['-']]
        simp

theorem hyphenateFrom_word (hc : isSlugChar c = true) (inside : Bool) (s : List Char) :
    hyphenateFrom inside [] (c :: s) = c :: hyphenateFrom false [] s := by
  rw [hyphenateFrom, if_pos hc, hyphenateFrom_eq]
  rfl

theorem hyphenateFrom_inside (hc : isSlugChar c = false) (s : List Char) :
    hyphenateFrom true [] (c :: s) = hyphenateFrom true [] s := by
  rw [hyphenateFrom, if_neg (by simp [hc])]
  rfl

theorem hyphenateFrom_outside (hc : isSlugChar c = false) (s : List Char) :
    hyphenateFrom false [] (c :: s) = '-' :: hyphenateFrom true [] s := by
  rw [hyphenateFrom, if_neg (by simp [hc]), if_neg Bool.false_ne_true, hyphenateFrom_eq]
  rfl

theorem ne_hyphen (hc : isSlugChar c = true) : (c == '-') = false := by
  rw [beq_eq_false_iff_ne]
  rintro rfl
  exact absurd hc (by decide)

/-- Taking off the hyphens in front is the same as not writing the first one. -/
theorem dropWhile_hyphenateFrom (inside : Bool) (s : List Char) :
    (hyphenateFrom inside [] s).dropWhile (· == '-') = hyphenateFrom true [] s := by
  induction s generalizing inside with
  | nil => rfl
  | cons c s ih =>
    by_cases hc : isSlugChar c = true
    · rw [hyphenateFrom_word hc, hyphenateFrom_word hc, List.dropWhile_cons_of_neg]
      simp [ne_hyphen hc]
    · rw [Bool.not_eq_true] at hc
      rw [hyphenateFrom_inside hc, ← ih true]
      cases inside with
      | false => rw [hyphenateFrom_outside hc, List.dropWhile_cons_of_pos (by simp)]
      | true => rw [hyphenateFrom_inside hc]

theorem rdropWhile_word (hw : ∀ c ∈ w, isSlugChar c = true) (s : List Char) :
    (w ++ s).rdropWhile (· == '-') = w ++ s.rdropWhile (· == '-') := by
  induction s using List.reverseRecOn with
  | nil =>
    rw [List.append_nil, List.rdropWhile_nil, List.append_nil, List.rdropWhile_eq_self_iff]
    intro hne
    simp [ne_hyphen (hw _ (List.getLast_mem hne))]
  | append_singleton s d ih =>
    rw [← List.append_assoc, List.rdropWhile_concat, List.rdropWhile_concat, ih]
    split <;> simp

theorem rdropWhile_hyphen (s : List Char) : ('-' :: s).rdropWhile (· == '-') =
    if s.rdropWhile (· == '-') = [] then [] else '-' :: s.rdropWhile (· == '-') := by
  induction s using List.reverseRecOn with
  | nil => rfl
  | append_singleton s d ih =>
    rw [← List.cons_append, List.rdropWhile_concat, List.rdropWhile_concat, ih]
    split
    · rfl
    · simp

/-- Where a word has been read, it stands in front of what the rest of the text gives; where none
has, the rest begins within a stretch of other characters. -/
theorem rdropWhile_hyphenateFrom (s : List Char) :
    (hyphenateFrom true [] s).rdropWhile (· == '-') = ['-'].intercalate (slugWords s) ∧
    ∀ w, w ≠ [] → (∀ c ∈ w, isSlugChar c = true) →
      (w ++ hyphenateFrom false [] s).rdropWhile (· == '-') =
        ['-'].intercalate (((s.splitOnP (fun c => !isSlugChar c)).modifyHead (w ++ ·)).filter
          (fun w => !w.isEmpty)) := by
  induction s with
  | nil =>
    refine ⟨rfl, fun w hne hw => ?_⟩
    rw [rdropWhile_word hw]
    simp [hyphenateFrom, hne]
  | cons c s ih =>
    obtain ⟨hinside, hword⟩ := ih
    by_cases hc : isSlugChar c = true
    · have hsplit : (c :: s).splitOnP (fun c => !isSlugChar c) =
          (s.splitOnP (fun c => !isSlugChar c)).modifyHead (List.cons c) := by
        rw [List.splitOnP_cons_eq_if_modifyHead, if_neg (by simp [hc])]
      constructor
      · rw [hyphenateFrom_word hc, slugWords, hsplit]
        exact hword [c] (List.cons_ne_nil c []) (by simpa using hc)
      · intro w hne hw
        have happend : (w ++ ·) ∘ List.cons c = (w ++ [c] ++ ·) := by
          funext s
          simp
        rw [hyphenateFrom_word hc, hsplit, List.modifyHead_modifyHead, happend,
          ← hword (w ++ [c]) (by simp) (List.forall_mem_append.2 ⟨hw, by simpa using hc⟩)]
        simp
    · rw [Bool.not_eq_true] at hc
      have hsplit : (c :: s).splitOnP (fun c => !isSlugChar c) =
          [] :: s.splitOnP (fun c => !isSlugChar c) := by
        rw [List.splitOnP_cons_eq_if_modifyHead, if_pos (by simp [hc])]
      constructor
      · rw [hyphenateFrom_inside hc, hinside, slugWords, slugWords, hsplit]
        rfl
      · intro w hne hw
        have hwords : (([] :: s.splitOnP (fun c => !isSlugChar c)).modifyHead (w ++ ·)).filter
            (fun w => !w.isEmpty) = w :: slugWords s := by
          simp [slugWords, hne]
        rw [hyphenateFrom_outside hc, rdropWhile_word hw, rdropWhile_hyphen, hinside, hsplit,
          hwords]
        cases hrest : slugWords s with
        | nil => simp
        | cons u us =>
          have hu : u ∈ slugWords s := hrest ▸ List.mem_cons_self
          rw [if_neg (intercalate_cons_ne_nil (word_of_mem_slugWords hu).1 us),
            intercalate_cons (List.cons_ne_nil u us)]

theorem trimHyphens_hyphenateFrom (s : List Char) :
    trimHyphens (hyphenateFrom false [] s) = ['-'].intercalate (slugWords s) := by
  rw [← (rdropWhile_hyphenateFrom s).1, ← dropWhile_hyphenateFrom false s]
  rfl

/-! ### Lower case -/

/-- Of the plain characters only the capital letters change in lower case. -/
theorem lowerOf_plain {before after : List Char}
    (hc : c.toNat < 0x41 ∨ 0x5A < c.toNat ∧ c.toNat < 0xC0) : lowerOf before c after = [c] := by
  have hsigma : c ≠ 'Σ' := by
    rintro rfl
    exact absurd hc (by decide)
  have hspecial : lowerSpecials.lookup c.toNat = none := by
    have hne : (c.toNat == 0x130) = false := by
      rw [beq_eq_false_iff_ne]
      omega
    rw [lowerSpecials, List.lookup_cons, hne]
    rfl
  have hmoved : moved c.toNat lowerRuns = c.toNat := by
    rw [lowerRuns, moved]
    rcases hc with hc | ⟨hlow, hhigh⟩
    · rw [if_pos hc]
    · rw [if_neg (by simp; omega), if_neg (by simp; omega), moved, if_pos hhigh]
  rw [lowerOf, if_neg hsigma, mapped, hspecial, hmoved]
  exact congrArg (fun d => [d]) (Char.ofNat_toNat c)

theorem lowerFrom_plain {before done : List Char}
    (h : ∀ c ∈ s, c.toNat < 0x41 ∨ 0x5A < c.toNat ∧ c.toNat < 0xC0) :
    lowerFrom before done s = done.reverse ++ s := by
  induction s generalizing before done with
  | nil => rw [lowerFrom, List.append_nil]
  | cons c s ih =>
    obtain ⟨hc, hs⟩ := List.forall_mem_cons.1 h
    rw [lowerFrom, lowerOf_plain hc, ih hs]
    simp

theorem toNat_of_isSlugChar (hc : isSlugChar c = true) :
    c.toNat < 0x41 ∨ 0x5A < c.toNat ∧ c.toNat < 0xC0 := by
  have hbounds : 97 ≤ c.toNat ∧ c.toNat ≤ 122 ∨ 48 ≤ c.toNat ∧ c.toNat ≤ 57 := by
    simpa [isSlugChar, Char.le_def, UInt32.le_iff_toNat_le] using hc
  omega

theorem IsSlug.lower_eq (h : IsSlug s) : lower s = s := by
  have hplain : ∀ c ∈ s, c.toNat < 0x41 ∨ 0x5A < c.toNat ∧ c.toNat < 0xC0 := by
    induction h with
    | word _ hw => exact fun c hc => toNat_of_isSlugChar (hw c hc)
    | join _ hw _ ih =>
      exact List.forall_mem_append.2 ⟨fun c hc => toNat_of_isSlugChar (hw c hc),
        List.forall_mem_cons.2 ⟨.inl (by decide), ih⟩⟩
  exact lowerFrom_plain hplain

/-! ### Slugs -/

/-- **Slugs are normal forms.**  The slug of a text is made of the words of its lower case, in their
order, with single hyphens between them; so it is empty or has the form of a slug, the texts that
are their own slug are those and no others, and the slug of a slug is that slug. -/
theorem slug_normal_form (s : List Char) :
    slug s = ['-'].intercalate (slugWords (lower s)) ∧ (slug s = [] ∨ IsSlug (slug s)) ∧
      (slug s = s ↔ s = [] ∨ IsSlug s) ∧ slug (slug s) = slug s := by
  have hjoined : ∀ s, slug s = ['-'].intercalate (slugWords (lower s)) := fun s =>
    trimHyphens_hyphenateFrom (lower s)
  have hform : ∀ s, slug s = [] ∨ IsSlug (slug s) := fun s => by
    rw [hjoined]
    exact isSlug_intercalate fun w hw => word_of_mem_slugWords hw
  have hself : ∀ s, s = [] ∨ IsSlug s → slug s = s := by
    rintro s (rfl | h)
    · rfl
    · rw [hjoined, h.lower_eq, h.intercalate_slugWords]
  exact ⟨hjoined s, hform s, ⟨fun h => h ▸ hform s, hself s⟩, hself _ (hform s)⟩

example : slug "--Über  uns: Seite 2!".toList = "ber-uns-seite-2".toList := by decide

end SiteTemplates.Text
