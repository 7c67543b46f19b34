import Mathlib.Data.List.TakeWhile
import SiteTemplates.Proofs.Text.Trim

/-!
# Parts that stay whole

A text is split at the separators outside quotes.  A part that holds no such separator and closes
every quotation that it opens is passed over as a whole, whatever follows it (`Whole`); so parts of
this kind that are joined by separators are what the splitting gives back (`splitOutside_joined`).
Text without quotes and separators is of this kind, and so is every text in quotes that does not
hold its own quote.

A text whose first and last characters are no blanks is not changed by trimming, and a text in
quotes loses exactly these.
-/

namespace SiteTemplates.Text

variable {c separator : Char} {quote : Option Char} {s t : List Char}

/-! ### Characters -/

theorem quoteAfter_plain (hc : isQuote c = false) : quoteAfter none c = none := by
  simp [quoteAfter, hc]

theorem quoteAfter_quote (hc : isQuote c = true) : quoteAfter none c = some c := by
  simp [quoteAfter, hc]

theorem quoteAfter_within {q : Char} (hc : c ≠ q) : quoteAfter (some q) c = some q := by
  simp [quoteAfter, hc]

theorem quoteAfter_end (q : Char) : quoteAfter (some q) q = none := by
  simp [quoteAfter]

/-- The character cuts the text where `quote` is open. -/
def Cuts (separator : Char) (quote : Option Char) (c : Char) : Prop :=
  quote = none ∧ isQuote c = false ∧ c = separator

theorem splitFrom_cut (hq : isQuote separator = false) (part : List Char)
    (done : List (List Char)) (s : List Char) :
    splitFrom separator none part done (separator :: s) =
      splitFrom separator none [] (part.reverse :: done) s := by
  rw [splitFrom, if_pos ⟨rfl, hq, rfl⟩]

theorem splitFrom_pass (hc : ¬ Cuts separator quote c) (part : List Char)
    (done : List (List Char)) (s : List Char) :
    splitFrom separator quote part done (c :: s) =
      splitFrom separator (quoteAfter quote c) (c :: part) done s := by
  rw [splitFrom]
  exact if_neg hc

/-! ### Splitting -/

/-- The splitting passes over the text: it is not cut, and no quotation is left open. -/
def Whole (separator : Char) (s : List Char) : Prop :=
  ∀ part done rest, splitFrom separator none part done (s ++ rest) =
    splitFrom separator none (s.reverse ++ part) done rest

theorem whole_nil (separator : Char) : Whole separator [] := fun _ _ _ => rfl

theorem Whole.append (hs : Whole separator s) (ht : Whole separator t) :
    Whole separator (s ++ t) := by
  intro part done rest
  rw [List.append_assoc, hs, ht, List.reverse_append, List.append_assoc]

theorem whole_singleton (hq : isQuote c = false) (hc : c ≠ separator) : Whole separator [c] := by
  intro part done rest
  have hcut : ¬ Cuts separator none c := fun h => hc h.2.2
  rw [List.singleton_append, splitFrom_pass hcut, quoteAfter_plain hq]
  rfl

theorem whole_of_forall (h : ∀ c ∈ s, isQuote c = false ∧ c ≠ separator) : Whole separator s := by
  induction s with
  | nil => exact whole_nil separator
  | cons c s ih =>
    obtain ⟨hc, hs⟩ := List.forall_mem_cons.1 h
    exact (whole_singleton hc.1 hc.2).append (ih hs)

/-- In a quotation everything but the quote is passed over. -/
theorem splitFrom_quotation {q : Char} (h : q ∉ s) (part : List Char) (done : List (List Char))
    (rest : List Char) : splitFrom separator (some q) part done (s ++ rest) =
      splitFrom separator (some q) (s.reverse ++ part) done rest := by
  induction s generalizing part with
  | nil => rfl
  | cons c s ih =>
    rw [List.mem_cons, not_or] at h
    have hcut : ¬ Cuts separator (some q) c := fun h => nomatch h.1
    rw [List.cons_append, splitFrom_pass hcut, quoteAfter_within (Ne.symm h.1), ih h.2,
      List.reverse_cons, List.append_assoc]
    rfl

theorem whole_quotation {q : Char} (hq : isQuote q = true) (h : q ∉ s) :
    Whole separator (q :: (s ++ [q])) := by
  intro part done rest
  have hopen : ¬ Cuts separator none q := fun h => Bool.eq_false_iff.1 h.2.1 hq
  have hclose : ¬ Cuts separator (some q) q := fun h => nomatch h.1
  rw [List.cons_append, List.append_assoc, splitFrom_pass hopen, quoteAfter_quote hq,
    splitFrom_quotation h, List.singleton_append, splitFrom_pass hclose, quoteAfter_end]
  simp

/-- **Splitting undoes joining**, for parts that are passed over. -/
theorem splitOutside_joined (hq : isQuote separator = false) {first : List Char}
    {parts : List (List Char)} (hfirst : Whole separator first)
    (hparts : ∀ p ∈ parts, Whole separator p) :
    splitOutside separator (first ++ parts.flatMap (separator :: ·)) = first :: parts := by
  have hrest : ∀ part done, splitFrom separator none part done (parts.flatMap (separator :: ·)) =
      done.reverse ++ part.reverse :: parts := by
    induction parts with
    | nil =>
      intro part done
      rw [List.flatMap_nil, splitFrom, List.reverse_cons]
    | cons p parts ih =>
      intro part done
      obtain ⟨hp, hparts⟩ := List.forall_mem_cons.1 hparts
      rw [List.flatMap_cons, List.cons_append, splitFrom_cut hq, hp, ih hparts]
      simp
  rw [splitOutside, hfirst, hrest]
  simp

/-- What is kept by joining two texts and holds of the separator is kept by joining parts. -/
theorem joined_induction {P : List Char → Prop} (append : ∀ s t, P s → P t → P (s ++ t))
    (hseparator : P [separator]) {first : List Char} {parts : List (List Char)} (hfirst : P first)
    (hparts : ∀ p ∈ parts, P p) : P (first ++ parts.flatMap (separator :: ·)) := by
  induction parts generalizing first with
  | nil =>
    rw [List.flatMap_nil, List.append_nil]
    exact hfirst
  | cons p parts ih =>
    obtain ⟨hp, hparts⟩ := List.forall_mem_cons.1 hparts
    have hnext : P (first ++ ([separator] ++ p)) := append _ _ hfirst (append _ _ hseparator hp)
    have h := ih hnext hparts
    rwa [List.append_assoc, List.append_assoc] at h

/-! ### Cutting at the first separator -/

theorem forall_bne_of_not_mem (h : separator ∉ s) : ∀ c ∈ s, (c != separator) = true := by
  intro c hc
  rw [bne_iff_ne]
  rintro rfl
  exact h hc

theorem cutAt_append (h : separator ∉ s) (t : List Char) :
    cutAt separator (s ++ separator :: t) = (s, t) := by
  have hp := forall_bne_of_not_mem h
  rw [cutAt, List.takeWhile_append_of_pos hp, List.dropWhile_append_of_pos hp]
  simp

theorem cutAt_of_not_mem (h : separator ∉ s) : cutAt separator s = (s, []) := by
  have hp := forall_bne_of_not_mem h
  have htake : s.takeWhile (· != separator) = s := List.takeWhile_eq_self_iff.2 hp
  have hdrop : s.dropWhile (· != separator) = [] := List.dropWhile_eq_nil_iff.2 hp
  rw [cutAt, htake, hdrop, List.drop_nil]

/-! ### Trimming -/

def UnblankFirst (s : List Char) : Prop := ∃ c rest, s = c :: rest ∧ isBlank c = false

def UnblankLast (s : List Char) : Prop := ∃ init c, s = init ++ [c] ∧ isBlank c = false

theorem unblankFirst_cons (h : isBlank c = false) (s : List Char) : UnblankFirst (c :: s) :=
  ⟨c, s, rfl, h⟩

theorem UnblankFirst.append (h : UnblankFirst s) (t : List Char) : UnblankFirst (s ++ t) := by
  obtain ⟨c, rest, rfl, hc⟩ := h
  exact ⟨c, rest ++ t, rfl, hc⟩

theorem UnblankLast.append (h : UnblankLast t) (s : List Char) : UnblankLast (s ++ t) := by
  obtain ⟨init, c, rfl, hc⟩ := h
  exact ⟨s ++ init, c, by rw [List.append_assoc], hc⟩

theorem UnblankLast.cons (h : UnblankLast t) (c : Char) : UnblankLast (c :: t) := h.append [c]

theorem unblankFirst_of_forall (hne : s ≠ []) (h : ∀ c ∈ s, isBlank c = false) :
    UnblankFirst s := by
  obtain ⟨c, rest, rfl⟩ := List.exists_cons_of_ne_nil hne
  exact ⟨c, rest, rfl, h c List.mem_cons_self⟩

theorem unblankLast_of_forall (hne : s ≠ []) (h : ∀ c ∈ s, isBlank c = false) :
    UnblankLast s := by
  obtain ⟨init, c, rfl⟩ := (List.eq_nil_or_concat s).resolve_left hne
  exact ⟨init, c, by simp, h c (by simp)⟩

theorem trim_of_unblank (hfirst : UnblankFirst s) (hlast : UnblankLast s) : trim s = s := by
  obtain ⟨c, rest, hs, hc⟩ := hfirst
  obtain ⟨init, d, hs', hd⟩ := hlast
  have hstart : trimStart s = s := by rw [hs, trimStart_cons_of_not_blank hc]
  have hend : trimEnd s = s := by
    rw [trimEnd, hs', List.reverse_append, List.reverse_singleton, List.singleton_append,
      List.dropWhile_cons_of_neg (by simp [hd]), List.reverse_cons, List.reverse_reverse]
  rw [trim, hstart, hend]

theorem trim_of_forall (h : ∀ c ∈ s, isBlank c = false) : trim s = s := by
  by_cases hs : s = []
  · rw [hs]
    rfl
  · exact trim_of_unblank (unblankFirst_of_forall hs h) (unblankLast_of_forall hs h)

/-! ### Quotes around a text -/

theorem unquote_quotation {q : Char} (hq : isQuote q = true) (s : List Char) :
    unquote (q :: (s ++ [q])) = s := by
  rw [unquote, if_pos ⟨hq, List.getLast?_concat⟩, List.dropLast_concat]

theorem unquote_of_forall (h : ∀ c ∈ s, isQuote c = false) : unquote s = s := by
  cases s with
  | nil => rfl
  | cons c s =>
    have hc : isQuote c = false := h c List.mem_cons_self
    rw [unquote, if_neg (by simp [hc])]

end SiteTemplates.Text
