import SiteTemplates.Proofs.Template.Concatenation
import SiteTemplates.Proofs.Template.Spelling
import SiteTemplates.Proofs.Text.Splitting

/-!
# Expressions are read back

An expression that is spelled without loss is read back from its spelling
(`Expression.Spellable.ofText_spelled`).  Names hold no separators and quotations hide theirs, so
bars, colons and commas are found exactly where they were written; what they separate has no blanks
at its ends, and a quotation is taken off again.

The spelling of an expression is made of names, quotations and separators by joining.  What is kept
by joining is therefore shown for these alone (`Expression.spelled_induction`): that a text makes no
pair of braces, even where a brace follows it (`Unpaired`), or that it does not end in a blank.
-/

namespace SiteTemplates

open Text

/-! ### Plain names -/

namespace Plain

variable {name : String} {c : Char}

theorem not_blank (h : Plain name) : ∀ c ∈ name.toList, isBlank c = false :=
  fun c hc => (h.2 c hc).1

theorem not_quote (h : Plain name) : ∀ c ∈ name.toList, isQuote c = false :=
  fun c hc => (h.2 c hc).2.1

theorem not_mem (h : Plain name) (hc : c ∈ ['|', ':', ',', '{', '}']) : c ∉ name.toList :=
  fun hn => (h.2 c hn).2.2 hc

theorem unblankFirst (h : Plain name) : UnblankFirst name.toList :=
  unblankFirst_of_forall h.1 h.not_blank

theorem unblankLast (h : Plain name) : UnblankLast name.toList :=
  unblankLast_of_forall h.1 h.not_blank

theorem trim_eq (h : Plain name) : trim name.toList = name.toList := trim_of_forall h.not_blank

theorem whole (h : Plain name) (hc : c ∈ ['|', ':', ',', '{', '}']) : Whole c name.toList :=
  whole_of_forall fun d hd => ⟨h.not_quote d hd, fun he => h.not_mem hc (he ▸ hd)⟩

theorem isPathChar (h : Plain name) : name.toList.all Expression.isPathChar = true := by
  rw [List.all_eq_true]
  intro c hc
  obtain ⟨hblank, hquote, hmark⟩ := h.2 c hc
  simp only [List.mem_cons, List.not_mem_nil, or_false, not_or] at hmark
  simp [Expression.isPathChar, hblank, hquote, hmark]

theorem unquote_ne_nil (h : Plain name) : unquote name.toList ≠ [] := by
  rw [unquote_of_forall h.not_quote]
  exact h.1

theorem named_eq (h : Plain name) : Phrase.named name = name := by
  rw [Phrase.named, unquote_of_forall h.not_quote, String.ofList_toList]

end Plain

/-! ### Braces -/

/-- No pair of the character is in the text, and none comes about where it is followed by one. -/
def Unpaired (c : Char) (s : List Char) : Prop := ¬ HasPair c (s ++ [c])

section Unpaired

variable {c x : Char} {s t : List Char}

theorem Unpaired.append (hs : Unpaired c s) (ht : Unpaired c t) : Unpaired c (s ++ t) := by
  rw [Unpaired, List.append_assoc]
  exact not_hasPair_append hs ht

theorem unpaired_of_not_mem (h : c ∉ s) : Unpaired c s := by
  rintro ⟨a, b, hs⟩
  have hcount := congrArg (List.count c) hs
  have hzero : s.count c = 0 := List.count_eq_zero.2 h
  simp [List.count_append, hzero] at hcount
  omega

theorem unpaired_singleton (h : x ≠ c) : Unpaired c [x] :=
  unpaired_of_not_mem (by simpa using Ne.symm h)

theorem unpaired_concat (h : ¬ HasPair c s) (hx : x ≠ c) : Unpaired c (s ++ [x]) := by
  refine not_hasPair_concat ?_ (by simpa using hx)
  rintro ⟨a, b, hs⟩
  -- a pair in `s ++ [x]` does not end in `x`
  rcases List.eq_nil_or_concat' b with rfl | ⟨b, y, rfl⟩
  · have hsplit : (a ++ [c]) ++ [c] = s ++ [x] := by simpa using hs
    exact hx (List.cons.inj (List.append_inj' hsplit rfl).2).1.symm
  · have hsplit : (a ++ [c, c] ++ b) ++ [y] = s ++ [x] := by simpa using hs
    exact h ⟨a, b, (List.append_inj' hsplit rfl).1⟩

theorem unpaired_quotation {q : Char} (h : ¬ HasPair c s) (hq : q ≠ c) :
    Unpaired c (q :: (s ++ [q])) :=
  (unpaired_singleton hq).append (unpaired_concat h hq)

end Unpaired

/-! ### Arguments -/

theorem isBlank_eq_false_of_isQuote {q : Char} (h : isQuote q = true) : isBlank q = false := by
  rw [isQuote, Bool.or_eq_true, beq_iff_eq, beq_iff_eq] at h
  rcases h with rfl | rfl <;> decide

theorem ne_brace_of_isQuote {q : Char} (h : isQuote q = true) : q ≠ '}' := by
  rintro rfl
  exact absurd h (by decide)

/-- An argument that has not both kinds of quote is put in quotes that it does not hold. -/
theorem exists_quotation_eq {s : List Char} (h : ¬ ('"' ∈ s ∧ '\'' ∈ s)) :
    ∃ q, isQuote q = true ∧ q ∉ s ∧ quotation s = q :: (s ++ [q]) := by
  by_cases hd : '"' ∈ s
  · exact ⟨'\'', by decide, fun hs => h ⟨hd, hs⟩, by rw [quotation, if_pos hd]⟩
  · exact ⟨'"', by decide, hd, by rw [quotation, if_neg hd]⟩

namespace SpellableArgument

variable {a : String}

theorem whole (h : SpellableArgument a) (separator : Char) :
    Whole separator (quotation a.toList) := by
  obtain ⟨q, hq, hmem, heq⟩ := exists_quotation_eq h.2
  rw [heq]
  exact whole_quotation hq hmem

theorem unpaired (h : SpellableArgument a) : Unpaired '}' (quotation a.toList) := by
  obtain ⟨q, hq, -, heq⟩ := exists_quotation_eq h.2
  rw [heq]
  exact unpaired_quotation h.1 (ne_brace_of_isQuote hq)

theorem unblankLast (h : SpellableArgument a) : UnblankLast (quotation a.toList) := by
  obtain ⟨q, hq, -, heq⟩ := exists_quotation_eq h.2
  rw [heq]
  exact ⟨q :: a.toList, q, rfl, isBlank_eq_false_of_isQuote hq⟩

theorem unblankFirst (h : SpellableArgument a) : UnblankFirst (quotation a.toList) := by
  obtain ⟨q, hq, -, heq⟩ := exists_quotation_eq h.2
  exact ⟨q, _, heq, isBlank_eq_false_of_isQuote hq⟩

/-- An argument is read back from its quotation. -/
theorem unquote_eq (h : SpellableArgument a) :
    String.ofList (unquote (trim (quotation a.toList))) = a := by
  rw [trim_of_unblank h.unblankFirst h.unblankLast]
  obtain ⟨q, hq, -, heq⟩ := exists_quotation_eq h.2
  rw [heq, unquote_quotation hq, String.ofList_toList]

end SpellableArgument

/-- Arguments are read back from what stands behind the colon. -/
theorem Expression.argumentsOf_joined {a : String} {rest : List String} (ha : SpellableArgument a)
    (hrest : ∀ b ∈ rest, SpellableArgument b) :
    argumentsOf (quotation a.toList ++
      (rest.map (fun b => quotation b.toList)).flatMap (',' :: ·)) = a :: rest := by
  have hparts : ∀ p ∈ rest.map (fun b => quotation b.toList), Whole ',' p := by
    intro p hp
    obtain ⟨b, hb, rfl⟩ := List.mem_map.1 hp
    exact (hrest b hb).whole ','
  have hread : rest.map (fun b => String.ofList (unquote (trim (quotation b.toList)))) = rest := by
    rw [List.map_congr_left fun b hb => (hrest b hb).unquote_eq, List.map_id']
  obtain ⟨c, s, hs, hc⟩ := (ha.unblankFirst).append
    ((rest.map (fun b => quotation b.toList)).flatMap (',' :: ·))
  rw [argumentsOf, if_neg (by rw [hs]; simp [allBlank, hc]),
    splitOutside_joined (by decide) (ha.whole ',') hparts, List.map_cons, ha.unquote_eq,
    List.map_map]
  exact congrArg _ hread

/-! ### Filters and expressions -/

namespace FilterCall

variable {f : FilterCall}

/-- What holds of the name, of the arguments in quotes and of the marks between them, and is kept by
joining, holds of the whole filter. -/
theorem spelled_induction {P : List Char → Prop} (append : ∀ s t, P s → P t → P (s ++ t))
    (hcolon : P [':']) (hcomma : P [',']) (hname : P f.name.toList)
    (harguments : ∀ a ∈ f.arguments, P (quotation a.toList)) : P f.spelled := by
  rw [spelled]
  cases h : f.arguments with
  | nil =>
    rw [spelledArguments, List.append_nil]
    exact hname
  | cons a rest =>
    rw [h] at harguments
    obtain ⟨ha, hrest⟩ := List.forall_mem_cons.1 harguments
    have hjoined : P (quotation a.toList ++
        (rest.map (fun b => quotation b.toList)).flatMap (',' :: ·)) := by
      refine joined_induction append hcomma ha fun p hp => ?_
      obtain ⟨b, hb, rfl⟩ := List.mem_map.1 hp
      exact hrest b hb
    exact append _ _ hname (append _ _ hcolon hjoined)

namespace Spellable

theorem whole (h : f.Spellable) : Whole '|' f.spelled :=
  spelled_induction (fun _ _ => Whole.append) (whole_singleton (by decide) (by decide))
    (whole_singleton (by decide) (by decide)) (h.1.whole (by simp))
    fun a ha => (h.2 a ha).whole '|'

theorem unpaired (h : f.Spellable) : Unpaired '}' f.spelled :=
  spelled_induction (fun _ _ => Unpaired.append) (unpaired_singleton (by decide))
    (unpaired_singleton (by decide)) (unpaired_of_not_mem (h.1.not_mem (by simp)))
    fun a ha => (h.2 a ha).unpaired

theorem unblankLast (h : f.Spellable) : UnblankLast f.spelled :=
  spelled_induction (fun s _ _ ht => ht.append s) ⟨[], ':', rfl, by decide⟩
    ⟨[], ',', rfl, by decide⟩ h.1.unblankLast fun a ha => (h.2 a ha).unblankLast

theorem unblankFirst (h : f.Spellable) : UnblankFirst f.spelled := h.1.unblankFirst.append _

/-- A filter is read back from its spelling. -/
theorem filterOf?_spelled (h : f.Spellable) : Expression.filterOf? f.spelled = some f := by
  have hcolon : ':' ∉ f.name.toList := h.1.not_mem (by simp)
  have hcut : ∃ arguments, cutAt ':' f.spelled = (f.name.toList, arguments) ∧
      Expression.argumentsOf arguments = f.arguments := by
    rw [spelled]
    cases ha : f.arguments with
    | nil =>
      rw [spelledArguments, List.append_nil]
      exact ⟨[], cutAt_of_not_mem hcolon, rfl⟩
    | cons a rest =>
      have harguments := h.2
      rw [ha] at harguments
      obtain ⟨ha, hrest⟩ := List.forall_mem_cons.1 harguments
      exact ⟨_, cutAt_append hcolon _, Expression.argumentsOf_joined ha hrest⟩
  obtain ⟨arguments, hcut, harguments⟩ := hcut
  obtain ⟨c, rest, hname⟩ := List.exists_cons_of_ne_nil h.1.1
  have htrim : trim f.name.toList = c :: rest := h.1.trim_eq.trans hname
  simp only [Expression.filterOf?, trim_of_unblank h.unblankFirst h.unblankLast, hcut, htrim,
    harguments]
  rw [← hname, String.ofList_toList]

end Spellable

end FilterCall

namespace Expression

variable {e : Expression}

/-- What holds of the path, of the filters and of the bars between them, and is kept by joining,
holds of the whole expression. -/
theorem spelled_induction {P : List Char → Prop} (append : ∀ s t, P s → P t → P (s ++ t))
    (hbar : P ['|']) (hpath : P e.path.toList) (hfilters : ∀ f ∈ e.filters, P f.spelled) :
    P e.spelled := by
  refine joined_induction append hbar hpath fun p hp => ?_
  obtain ⟨f, hf, rfl⟩ := List.mem_map.1 hp
  exact hfilters f hf

theorem mapM_filterOf?_spelled {fs : List FilterCall} (h : ∀ f ∈ fs, f.Spellable) :
    (fs.map FilterCall.spelled).mapM filterOf? = some fs := by
  induction fs with
  | nil => rfl
  | cons f fs ih =>
    obtain ⟨hf, hfs⟩ := List.forall_mem_cons.1 h
    rw [List.map_cons, List.mapM_cons, hf.filterOf?_spelled, ih hfs]
    rfl

namespace Spellable

theorem unpaired (h : e.Spellable) : Unpaired '}' e.spelled :=
  spelled_induction (fun _ _ => Unpaired.append) (unpaired_singleton (by decide))
    (unpaired_of_not_mem (h.1.not_mem (by simp))) fun f hf => (h.2.2.2 f hf).unpaired

theorem unblankFirst (h : e.Spellable) : UnblankFirst e.spelled := h.1.unblankFirst.append _

/-- A spelling is not the word for another kind of tag, since a bar follows the path if anything
does. -/
theorem spelled_ne_else (h : e.Spellable) : e.spelled ≠ "else".toList := by
  intro heq
  rw [Expression.spelled] at heq
  cases hf : e.filters with
  | nil =>
    rw [hf, List.map_nil, List.flatMap_nil, List.append_nil] at heq
    exact h.2.1 (String.toList_inj.1 heq)
  | cons f fs =>
    have hbar : '|' ∈ "else".toList := by
      rw [← heq, hf]
      simp
    exact absurd hbar (by decide)

theorem unblankLast (h : e.Spellable) : UnblankLast e.spelled :=
  spelled_induction (fun s _ _ ht => ht.append s) ⟨[], '|', rfl, by decide⟩ h.1.unblankLast
    fun f hf => (h.2.2.2 f hf).unblankLast

/-- **An expression is read back** from its spelling. -/
theorem ofText_spelled (h : e.Spellable) : ofText e.spelled = .ok e := by
  have hparts : ∀ p ∈ e.filters.map FilterCall.spelled, Whole '|' p := by
    intro p hp
    obtain ⟨f, hf, rfl⟩ := List.mem_map.1 hp
    exact (h.2.2.2 f hf).whole
  obtain ⟨c, rest, hpath⟩ := List.exists_cons_of_ne_nil h.1.1
  have hsplit : splitOutside '|' e.spelled =
      e.path.toList :: e.filters.map FilterCall.spelled :=
    splitOutside_joined (by decide) (h.1.whole (by simp)) hparts
  have htrim : trim e.path.toList = c :: rest := h.1.trim_eq.trans hpath
  have hchars : (c :: rest).all isPathChar = true := hpath ▸ h.1.isPathChar
  simp only [ofText, hsplit, htrim, hchars, mapM_filterOf?_spelled h.2.2.2]
  rw [if_neg (by decide), ← hpath, String.ofList_toList]

end Spellable

end Expression

end SiteTemplates
