import SiteTemplates.Proofs.Text.Parts
import SiteTemplates.Proofs.Text.Splitting

/-!
# Splitting outside quotes

A separator cuts a text where no quotation is open.  `Parted` says what comes of that, beginning in
the middle of a quotation if need be: parts that are cut nowhere (`Uncut`), and that end outside
quotations but for the last one.  The splitting gives such parts (`parted_splitOutside`), and the
rest is read off from them: joined they are the text, each of them is split into itself alone, and
only the last one may leave a quotation open.

What it is to leave none open is said without the scanning of characters: `QuotesClosed` texts are
made of ordinary characters and of quotations from a quote to the next one of its kind.
-/

namespace SiteTemplates.Text

variable {separator c : Char} {quote : Option Char} {part s t : List Char}
  {parts : List (List Char)}

/-! ### Open quotations -/

/-- The quotation that is open after a text, when `quote` was open before it. -/
def openQuote (quote : Option Char) (s : List Char) : Option Char := s.foldl quoteAfter quote

/-- Ordinary characters and quotations, each from a quote to the next one of its kind. -/
inductive QuotesClosed : List Char → Prop
  | nil : QuotesClosed []
  | plain {c : Char} {s : List Char} (hc : isQuote c = false) (hs : QuotesClosed s) :
      QuotesClosed (c :: s)
  | quotation {q : Char} {body s : List Char} (hq : isQuote q = true) (hbody : q ∉ body)
      (hs : QuotesClosed s) : QuotesClosed (q :: (body ++ q :: s))

theorem openQuote_within {q : Char} {body : List Char} (h : q ∉ body) :
    openQuote (some q) (body ++ q :: s) = openQuote none s := by
  induction body with
  | nil =>
    show openQuote (quoteAfter (some q) q) s = _
    rw [quoteAfter_end]
  | cons c body ih =>
    rw [List.mem_cons, not_or] at h
    show openQuote (quoteAfter (some q) c) (body ++ q :: s) = _
    rw [quoteAfter_within (Ne.symm h.1), ih h.2]

/-- A quotation that is not open at the end was closed by its quote. -/
theorem exists_of_openQuote_some {q : Char} (h : openQuote (some q) s = none) :
    ∃ body rest, s = body ++ q :: rest ∧ q ∉ body ∧ openQuote none rest = none := by
  induction s with
  | nil => cases h
  | cons c s ih =>
    have hs : openQuote (quoteAfter (some q) c) s = none := h
    by_cases hc : c = q
    · rw [hc, quoteAfter_end] at hs
      exact ⟨[], s, by rw [hc, List.nil_append], List.not_mem_nil, hs⟩
    · rw [quoteAfter_within hc] at hs
      obtain ⟨body, rest, rfl, hbody, hrest⟩ := ih hs
      refine ⟨c :: body, rest, rfl, ?_, hrest⟩
      rw [List.mem_cons, not_or]
      exact ⟨Ne.symm hc, hbody⟩

theorem QuotesClosed.openQuote_eq (h : QuotesClosed s) : openQuote none s = none := by
  induction h with
  | nil => rfl
  | @plain c s hc _ ih =>
    show openQuote (quoteAfter none c) s = none
    rw [quoteAfter_plain hc, ih]
  | @quotation q body s hq hbody _ ih =>
    show openQuote (quoteAfter none q) (body ++ q :: s) = none
    rw [quoteAfter_quote hq, openQuote_within hbody, ih]

theorem quotesClosed_iff : QuotesClosed s ↔ openQuote none s = none := by
  refine ⟨QuotesClosed.openQuote_eq, fun h => ?_⟩
  -- a quotation is taken off as a whole, so the text gets shorter by more than a character
  induction hn : s.length using Nat.strongRecOn generalizing s with
  | ind n ih =>
    cases s with
    | nil => exact .nil
    | cons c s =>
      have hs : openQuote (quoteAfter none c) s = none := h
      have hlength : s.length + 1 = n := hn
      cases hc : isQuote c with
      | false =>
        rw [quoteAfter_plain hc] at hs
        exact .plain hc (ih s.length (by omega) hs rfl)
      | true =>
        rw [quoteAfter_quote hc] at hs
        obtain ⟨body, rest, rfl, hbody, hrest⟩ := exists_of_openQuote_some hs
        rw [List.length_append, List.length_cons] at hlength
        exact .quotation hc hbody (ih rest.length (by omega) hrest rfl)

/-! ### Texts that are not cut -/

/-- No character cuts the text, when `quote` is open before it. -/
inductive Uncut (separator : Char) : Option Char → List Char → Prop
  | nil (quote : Option Char) : Uncut separator quote []
  | cons {quote : Option Char} {c : Char} {s : List Char} (hc : ¬ Cuts separator quote c)
      (hs : Uncut separator (quoteAfter quote c) s) : Uncut separator quote (c :: s)

theorem Uncut.splitFrom_eq (h : Uncut separator quote s) (part : List Char)
    (done : List (List Char)) :
    splitFrom separator quote part done s = done.reverse ++ [part.reverse ++ s] := by
  induction h generalizing part with
  | nil quote => simp [splitFrom]
  | @cons quote c s hc _ ih =>
    rw [splitFrom_pass hc, ih]
    simp

/-- A separator that is left stands inside a quotation, or is itself a quote. -/
theorem Uncut.openQuote_ne {before after : List Char}
    (h : Uncut separator quote (before ++ separator :: after)) (hq : isQuote separator = false) :
    openQuote quote before ≠ none := by
  induction before generalizing quote with
  | nil =>
    cases h with
    | cons hc _ =>
      rintro (rfl : quote = none)
      exact hc ⟨rfl, hq, rfl⟩
  | cons c before ih =>
    cases h with
    | cons _ hs => exact ih hs

/-! ### The parts of a text -/

/-- The parts of a text, when `quote` is open before it. -/
inductive Parted (separator : Char) : Option Char → List Char → List (List Char) → Prop
  | last {quote : Option Char} {s : List Char} (hs : Uncut separator quote s) :
      Parted separator quote s [s]
  | cut {quote : Option Char} {s t : List Char} {parts : List (List Char)}
      (hs : Uncut separator quote s) (hend : openQuote quote s = none)
      (ht : Parted separator none t parts) :
      Parted separator quote (s ++ separator :: t) (s :: parts)

namespace Parted

theorem ne_nil (h : Parted separator quote s parts) : parts ≠ [] := by
  cases h <;> exact List.cons_ne_nil _ _

/-- A character that does not cut goes to the first part. -/
theorem cons (hc : ¬ Cuts separator quote c) (h : Parted separator (quoteAfter quote c) s parts) :
    Parted separator quote (c :: s) (parts.modifyHead (c :: ·)) := by
  cases h with
  | last hs => exact .last (.cons hc hs)
  | cut hs hend ht => exact .cut (.cons hc hs) hend ht

theorem joined_eq (h : Parted separator quote s parts) : joined [separator] parts = s := by
  induction h with
  | last hs => exact List.intercalate_singleton
  | cut hs hend ht ih => rw [joined_cons ht.ne_nil, ih]

theorem uncut_of_mem (h : Parted separator quote s parts) (hquote : quote = none)
    (hpart : part ∈ parts) : Uncut separator none part := by
  induction h with
  | last hs =>
    subst hquote
    obtain rfl := List.mem_singleton.1 hpart
    exact hs
  | cut hs hend ht ih =>
    subst hquote
    rcases List.mem_cons.1 hpart with rfl | hpart
    · exact hs
    · exact ih rfl hpart

theorem openQuote_of_mem_dropLast (h : Parted separator quote s parts) (hquote : quote = none)
    (hpart : part ∈ parts.dropLast) : openQuote none part = none := by
  induction h with
  | last hs => exact absurd hpart List.not_mem_nil
  | cut hs hend ht ih =>
    subst hquote
    rw [List.dropLast_cons_of_ne_nil ht.ne_nil] at hpart
    rcases List.mem_cons.1 hpart with rfl | hpart
    · exact hend
    · exact ih rfl hpart

end Parted

theorem exists_splitFrom_eq (separator : Char) (quote : Option Char) (part : List Char)
    (done : List (List Char)) (s : List Char) :
    ∃ parts, Parted separator quote s parts ∧
      splitFrom separator quote part done s =
        done.reverse ++ parts.modifyHead (part.reverse ++ ·) := by
  induction s generalizing quote part done with
  | nil => exact ⟨[[]], .last (.nil quote), by simp [splitFrom]⟩
  | cons c s ih =>
    by_cases hc : Cuts separator quote c
    · obtain ⟨rfl, hq, rfl⟩ := hc
      obtain ⟨parts, hparts, hsplit⟩ := ih none [] (part.reverse :: done)
      refine ⟨[] :: parts, .cut (.nil none) rfl hparts, ?_⟩
      rw [splitFrom_cut hq, hsplit]
      cases parts <;> simp
    · obtain ⟨parts, hparts, hsplit⟩ := ih (quoteAfter quote c) (c :: part) done
      refine ⟨parts.modifyHead (c :: ·), hparts.cons hc, ?_⟩
      rw [splitFrom_pass hc, hsplit]
      cases parts <;> simp

theorem parted_splitOutside (separator : Char) (s : List Char) :
    Parted separator none s (splitOutside separator s) := by
  obtain ⟨parts, hparts, hsplit⟩ := exists_splitFrom_eq separator none [] [] s
  have heq : splitOutside separator s = parts := by
    rw [splitOutside, hsplit]
    cases parts <;> simp
  rw [heq]
  exact hparts

/-- Without quotes every separator cuts. -/
theorem splitFrom_of_plain (h : ∀ c ∈ s, isQuote c = false) (part : List Char)
    (done : List (List Char)) :
    splitFrom separator none part done s = splitAllFrom separator part done s := by
  induction s generalizing part done with
  | nil => rfl
  | cons c s ih =>
    obtain ⟨hc, hs⟩ := List.forall_mem_cons.1 h
    rw [splitFrom, splitAllFrom, quoteAfter_plain hc, ih hs, ih hs]
    simp only [hc, true_and]

/-- **Splitting outside quotes loses nothing and is final.**  The parts are joined to the text
again.  A separator that is left in a part stands behind a quotation that is still open there
(unless it is a quote, which never cuts), so that a part is split into itself alone; and every part
but the last closes its quotations.  A text without quotes is split at every separator. -/
theorem splitOutside_lossless_final (separator : Char) (s : List Char) :
    let parts := splitOutside separator s
    joined [separator] parts = s ∧
    (∀ part ∈ parts, splitOutside separator part = [part]) ∧
    (∀ part ∈ parts.dropLast, QuotesClosed part) ∧
    (∀ part ∈ parts, ∀ before after, part = before ++ separator :: after →
      isQuote separator = true ∨ ¬ QuotesClosed before) ∧
    ((∀ c ∈ s, isQuote c = false) → parts = s.splitOn separator) := by
  intro parts
  have hparts : Parted separator none s parts := parted_splitOutside separator s
  refine ⟨hparts.joined_eq, fun part hpart => ?_, fun part hpart => ?_, ?_, fun h => ?_⟩
  · exact (hparts.uncut_of_mem rfl hpart).splitFrom_eq [] []
  · exact quotesClosed_iff.2 (hparts.openQuote_of_mem_dropLast rfl hpart)
  · rintro part hpart before after rfl
    cases hq : isQuote separator with
    | true => exact .inl rfl
    | false =>
      have hopen := (hparts.uncut_of_mem rfl hpart).openQuote_ne hq
      exact .inr (mt quotesClosed_iff.1 hopen)
  · show splitFrom separator none [] [] s = _
    rw [splitFrom_of_plain h, ← splitAll_eq_splitOn]
    rfl

/-- A comma in a quotation stays, also where the quotation is never closed; without quotes every
comma cuts. -/
theorem splitOutside_lossless_final_leftOpen :
    let s := "x,'a,b',\"c,".toList
    let parts := ["x".toList, "'a,b'".toList, "\"c,".toList]
    let plain := "a,,b".toList
    splitOutside ',' s = parts ∧ joined [','] parts = s ∧
      (∀ part ∈ parts, splitOutside ',' part = [part]) ∧
      (QuotesClosed "'a,b'".toList ∧ ¬ QuotesClosed "\"c".toList) ∧
      (∀ c ∈ plain, isQuote c = false) ∧ splitOutside ',' plain = plain.splitOn ',' := by
  intro s parts plain
  have hs : splitOutside ',' s = parts := by decide
  have hplain : ∀ c ∈ plain, isQuote c = false := by
    have hall : plain.all (isQuote · == false) = true := by decide
    exact fun c hc => eq_of_beq (List.all_eq_true.1 hall c hc)
  have hmiddle : "'a,b'".toList ∈ parts.dropLast := by decide
  have hlast : "\"c,".toList ∈ parts := by decide
  obtain ⟨hjoined, hsingle, hclosed, hleft, -⟩ := splitOutside_lossless_final ',' s
  obtain ⟨-, -, -, -, hevery⟩ := splitOutside_lossless_final ',' plain
  rw [hs] at hjoined hsingle hclosed hleft
  refine ⟨hs, hjoined, hsingle, ⟨hclosed _ hmiddle, ?_⟩, hplain, hevery hplain⟩
  exact (hleft _ hlast "\"c".toList [] rfl).resolve_left (by decide)

end SiteTemplates.Text
