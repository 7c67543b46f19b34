import SiteTemplates.Proofs.Text.Splitting
import SiteTemplates.Text.Tag

/-!
# What is left of a text without its tags

Leaving the tags out is one walk over the text (`Stripped`).  It keeps a character outside tags,
drops a tag from its `<` to the first `>` after it, and ends with a rest in which no `<` has a `>`
after it.  A `<` is kept in that rest only, so no tag can come up from what stood on the two sides
of one that was dropped (`stripTags_leaves_none`).
-/

namespace SiteTemplates.Text

variable {c : Char} {s t label after : List Char}

/-- No `<` has a `>` anywhere after it. -/
def TagFree (s : List Char) : Prop := ¬ ['<', '>'].Sublist s

theorem tagFree_nil : TagFree [] := fun hsub => nomatch hsub

theorem TagFree.cons (h : TagFree s) (hc : c ≠ '<') : TagFree (c :: s) := by
  intro hsub
  cases hsub with
  | cons _ hsub => exact h hsub
  | cons_cons _ _ => exact hc rfl

theorem tagFree_cons_of_not_mem (h : '>' ∉ s) (c : Char) : TagFree (c :: s) := by
  intro hsub
  have hmem : '>' ∈ s := List.singleton_sublist.1 hsub.tail
  exact h hmem

theorem not_tagFree_tag (label s : List Char) : ¬ TagFree ('<' :: (label ++ '>' :: s)) := by
  intro h
  have hclose : ['>'].Sublist (label ++ '>' :: s) := List.singleton_sublist.2 (by simp)
  exact h (hclose.cons_cons '<')

/-! ### The walk -/

/-- What the walk over a text keeps of it. -/
inductive Stripped : List Char → List Char → Prop
  | rest {s : List Char} (h : TagFree s) : Stripped s s
  | keep {c : Char} (hc : c ≠ '<') {s t : List Char} (h : Stripped s t) : Stripped (c :: s) (c :: t)
  | drop {label : List Char} (hlabel : '>' ∉ label) {s t : List Char} (h : Stripped s t) :
      Stripped ('<' :: (label ++ '>' :: s)) t

namespace Stripped

theorem sublist (h : Stripped s t) : t.Sublist s := by
  induction h with
  | rest _ => exact List.Sublist.refl _
  | keep _ _ ih => exact ih.cons_cons _
  | drop _ _ ih => exact ((ih.cons _).trans (List.sublist_append_right _ _)).cons _

/-- The two sides of a dropped tag make no tag: to its left there is no `<` any more. -/
theorem tagFree (h : Stripped s t) : TagFree t := by
  induction h with
  | rest h => exact h
  | keep hc _ ih => exact ih.cons hc
  | drop _ _ ih => exact ih

theorem eq_self (h : Stripped s t) (hs : TagFree s) : t = s := by
  induction h with
  | rest _ => rfl
  | keep _ _ ih => rw [ih fun hsub => hs (hsub.cons _)]
  | @drop label _ s _ _ _ => exact absurd hs (not_tagFree_tag label s)

theorem unique (h : Stripped s t) {u : List Char} (h' : Stripped s u) : t = u := by
  induction h generalizing u with
  | rest hs => exact (h'.eq_self hs).symm
  | keep hc h ih =>
    cases h' with
    | rest hs => exact (keep hc h).eq_self hs
    | keep _ h' => rw [ih h']
    | drop => exact absurd rfl hc
  | @drop label hlabel s t h ih =>
    generalize hx : '<' :: (label ++ '>' :: s) = x at h'
    cases h' with
    | rest hs => exact absurd (hx ▸ hs) (not_tagFree_tag label s)
    | keep hc _ => exact absurd (List.cons.inj hx).1.symm hc
    | drop hlabel' h' =>
      have hcut := congrArg (cutAt '>') (List.cons.inj hx).2
      rw [cutAt_append hlabel, cutAt_append hlabel'] at hcut
      exact ih ((Prod.mk.inj hcut).2 ▸ h')

/-- Where no `<` is left, the walk over what follows begins anew. -/
theorem append (h : Stripped s t) (ht : '<' ∉ t) {s' t' : List Char} (h' : Stripped s' t') :
    Stripped (s ++ s') (t ++ t') := by
  induction h with
  | @rest s hs =>
    clear hs
    induction s with
    | nil => exact h'
    | cons c s ih =>
      rw [List.mem_cons, not_or] at ht
      exact .keep (Ne.symm ht.1) (ih ht.2)
  | keep hc _ ih => exact .keep hc (ih fun hmem => ht (List.mem_cons_of_mem _ hmem))
  | drop hlabel _ ih =>
    have hdrop := Stripped.drop hlabel (ih ht)
    simpa using hdrop

end Stripped

/-- The walk may stand within a tag that is still open.  What it holds back of that, last character
first, then counts as text to come. -/
theorem exists_stripTagsFrom_eq (done : List Char) (tag : Option (List Char)) (s : List Char)
    (htag : ∀ t, tag = some t → ∃ label, t = label ++ ['<'] ∧ '>' ∉ label) :
    ∃ t, stripTagsFrom done tag s = done.reverse ++ t ∧
      Stripped ((tag.getD []).reverse ++ s) t := by
  fun_induction stripTagsFrom done tag s with
  | case1 done tag =>
    refine ⟨(tag.getD []).reverse, List.reverse_append, ?_⟩
    rw [List.append_nil]
    cases tag with
    | none => exact .rest tagFree_nil
    | some t =>
      obtain ⟨label, rfl, hlabel⟩ := htag t rfl
      refine .rest ?_
      rw [Option.getD_some, List.reverse_append, List.reverse_singleton, List.singleton_append]
      exact tagFree_cons_of_not_mem (by rwa [List.mem_reverse]) '<'
  | case2 done rest ih =>
    exact ih fun t ht => ⟨[], (Option.some.inj ht).symm, List.not_mem_nil⟩
  | case3 done c rest hc ih =>
    obtain ⟨t, heq, h⟩ := ih fun t ht => nomatch ht
    refine ⟨c :: t, ?_, .keep hc h⟩
    rw [heq, List.reverse_cons, List.append_assoc, List.singleton_append]
  | case4 done rest u ih =>
    obtain ⟨t, heq, h⟩ := ih fun t ht => nomatch ht
    obtain ⟨label, rfl, hlabel⟩ := htag u rfl
    refine ⟨t, heq, ?_⟩
    have hclose : '>' ∉ label.reverse := by rwa [List.mem_reverse]
    have hdrop := Stripped.drop hclose h
    simpa using hdrop
  | case5 done c rest u hc ih =>
    obtain ⟨label, rfl, hlabel⟩ := htag u rfl
    obtain ⟨t, heq, h⟩ := ih fun t ht =>
      ⟨c :: label, (Option.some.inj ht).symm, by simp [Ne.symm hc, hlabel]⟩
    exact ⟨t, heq, by simpa using h⟩

theorem stripped_stripTags (s : List Char) : Stripped s (stripTags s) := by
  obtain ⟨t, heq, h⟩ := exists_stripTagsFrom_eq [] none s fun t ht => nomatch ht
  rw [stripTags, heq]
  exact h

theorem stripTags_append (h : '<' ∉ stripTags s) (t : List Char) :
    stripTags (s ++ t) = stripTags s ++ stripTags t :=
  (stripped_stripTags (s ++ t)).unique ((stripped_stripTags s).append h (stripped_stripTags t))

theorem stripTags_tag (h : '>' ∉ label) (s : List Char) :
    stripTags ('<' :: (label ++ '>' :: s)) = stripTags s :=
  (stripped_stripTags _).unique (.drop h (stripped_stripTags s))

/-- **Nothing like a tag is left.**  Without its tags a text has no `<` with a `>` after it; it is
the text with some characters left out, the text itself exactly if that has no tag, and it stays as
it is when its tags are left out again.  And no new tag comes up where one is taken out: it makes no
difference if a single tag, anywhere outside others, is taken out first. -/
theorem stripTags_leaves_none (s : List Char) :
    TagFree (stripTags s) ∧ (stripTags s).Sublist s ∧ (stripTags s = s ↔ TagFree s) ∧
      stripTags (stripTags s) = stripTags s ∧
      ∀ label after, '<' ∉ stripTags s → '>' ∉ label →
        stripTags (s ++ '<' :: (label ++ '>' :: after)) = stripTags (s ++ after) := by
  have hstripped := stripped_stripTags s
  have hself : ∀ t, TagFree t → stripTags t = t := fun t => (stripped_stripTags t).eq_self
  refine ⟨hstripped.tagFree, hstripped.sublist, ⟨fun h => h ▸ hstripped.tagFree, hself s⟩,
    hself _ hstripped.tagFree, fun label after hs hlabel => ?_⟩
  rw [stripTags_append hs, stripTags_tag hlabel, stripTags_append hs]

example : stripTags "a<b<c>d> <e".toList = "ad> <e".toList := by decide

end SiteTemplates.Text
