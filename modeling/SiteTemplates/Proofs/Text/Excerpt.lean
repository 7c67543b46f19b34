import Mathlib.Data.List.TakeWhile
import SiteTemplates.Content.Record

/-!
# Where an excerpt is cut

An excerpt is cut at the last space of the characters that it may have, if that space comes after
the first character and leaves room for the ellipsis (`BreaksAt`).  Otherwise it is cut where the
ellipsis needs the room, be that inside a word, even if an earlier space would have left room
(`not_limited_at_word`).  So the limit is kept unless it is too short for the ellipsis itself
(`wordExcerpt_limit`).
-/

namespace SiteTemplates

namespace Text

variable {s : List Char} {n p : Nat}

/-- The last space of the first `n` characters is at `p`, after the first character, and leaves room
for the ellipsis. -/
def BreaksAt (s : List Char) (n p : Nat) : Prop :=
  0 < p ∧ p + ellipsis.length ≤ n ∧ s[p]? = some ' ' ∧ ∀ q, p < q → q < n → s[q]? ≠ some ' '

/-- A text is cut before its last space, unless there is none after the first character. -/
theorem beforeLastSpace_cases (s : List Char) :
    (∃ before after, s = before ++ ' ' :: after ∧ ' ' ∉ after ∧ before ≠ [] ∧
      beforeLastSpace s = before) ∨
    (∀ p, 0 < p → s[p]? ≠ some ' ') ∧ beforeLastSpace s = s := by
  have hsplit := List.takeWhile_append_dropWhile (p := (· != ' ')) (l := s.reverse)
  have hword : ∀ c ∈ s.reverse.takeWhile (· != ' '), c ≠ ' ' := fun c hc => by
    simpa using List.mem_takeWhile_imp hc
  unfold beforeLastSpace
  cases hrest : s.reverse.dropWhile (· != ' ') with
  | nil =>
    rw [hrest, List.append_nil] at hsplit
    refine .inr ⟨fun p _ hp => ?_, rfl⟩
    rw [hsplit] at hword
    exact hword ' ' (List.mem_reverse.2 (List.mem_of_getElem? hp)) rfl
  | cons c rest =>
    have hspace : c = ' ' := by
      have := List.head?_dropWhile_not (· != ' ') s.reverse
      simpa [hrest] using this
    rw [hrest] at hsplit
    have hs : s = rest.reverse ++ c :: (s.reverse.takeWhile (· != ' ')).reverse := by
      simpa using (congrArg List.reverse hsplit).symm
    have hafter : ' ' ∉ (s.reverse.takeWhile (· != ' ')).reverse := fun h =>
      hword ' ' (List.mem_reverse.1 h) rfl
    generalize (s.reverse.takeWhile (· != ' ')).reverse = after at hs hafter
    subst hspace
    cases rest with
    | nil =>
      refine .inr ⟨fun p hp h => hafter ?_, rfl⟩
      obtain ⟨p, rfl⟩ := Nat.exists_eq_succ_of_ne_zero (Nat.ne_of_gt hp)
      rw [hs] at h
      exact List.mem_of_getElem? h
    | cons d rest => exact .inl ⟨(d :: rest).reverse, after, hs, hafter, by simp, rfl⟩

/-- Where the first characters are split at a space with none after it, the text has its last space
among them. -/
theorem lastSpace_of_take_eq {before after : List Char} (hn : n < s.length)
    (h : s.take n = before ++ ' ' :: after) (hafter : ' ' ∉ after) :
    before.length < n ∧ s[before.length]? = some ' ' ∧
      ∀ q, before.length < q → q < n → s[q]? ≠ some ' ' := by
  have hget : ∀ q, q < n → (before ++ ' ' :: after)[q]? = s[q]? := fun q hq =>
    h ▸ List.getElem?_take_of_lt hq
  have hlength : before.length + (after.length + 1) = n := by
    have := congrArg List.length h
    rw [List.length_take, List.length_append, List.length_cons] at this
    omega
  refine ⟨by omega, ?_, fun q hq hqn hspace => hafter ?_⟩
  · rw [← hget _ (by omega), List.getElem?_append_right (Nat.le_refl _), Nat.sub_self]
    rfl
  · rw [← hget q hqn, List.getElem?_append_right (by omega),
      show q - before.length = (q - before.length - 1) + 1 by omega] at hspace
    exact List.mem_of_getElem? hspace

/-- A text that does not fit is cut where it breaks, or else where the ellipsis needs the room. -/
theorem exists_wordExcerpt_eq (h : n < s.length) :
    ∃ w, w <+: s ∧ wordExcerpt s n = w ++ ellipsis ∧
      (BreaksAt s n w.length ∨
        w.length = n - ellipsis.length ∧ ∀ p, ¬ BreaksAt s n p) := by
  have hlength : ellipsis.length = 3 := rfl
  have hfits : ¬ ((s.length : Int) ≤ n) := by omega
  have hroom : ((n : Int) - (ellipsis.length : Int)).toNat = n - ellipsis.length := by omega
  have hforced : (s.take (n - ellipsis.length)).length = n - ellipsis.length := by
    rw [List.length_take]
    omega
  rw [wordExcerpt, if_neg hfits, Int.toNat_natCast, hroom]
  dsimp only
  rcases beforeLastSpace_cases (s.take n) with
    ⟨before, after, htake, hafter, hne, hcut⟩ | ⟨hnone, hcut⟩
  · obtain ⟨hbefore, hspace, hlast⟩ := lastSpace_of_take_eq h htake hafter
    rw [hcut]
    split
    · rename_i hlong
      refine ⟨_, List.take_prefix _ _, rfl, .inr ⟨hforced, fun p hp => ?_⟩⟩
      obtain ⟨-, hfit, -, hlater⟩ := hp
      rw [List.length_append] at hlong
      exact hlater before.length (by omega) hbefore hspace
    · rename_i hshort
      have hprefix : before <+: s :=
        List.IsPrefix.trans ⟨_, htake.symm⟩ (List.take_prefix n s)
      rw [List.length_append] at hshort
      exact ⟨before, hprefix, rfl,
        .inl ⟨List.length_pos_iff.2 hne, by omega, hspace, hlast⟩⟩
  · rw [hcut, if_pos (by rw [List.length_append, List.length_take]; omega)]
    refine ⟨_, List.take_prefix _ _, rfl, .inr ⟨hforced, fun p hp => ?_⟩⟩
    obtain ⟨hpos, hfit, hspace, -⟩ := hp
    exact hnone p hpos (by rw [List.getElem?_take_of_lt (by omega), hspace])

/-- **Excerpts and their limit.**  A text that fits is its own excerpt.  Another one is cut where it
breaks, or else where the ellipsis needs the room; so its excerpt exceeds the limit exactly if the
ellipsis alone does.  The excerpt of a post is that of its source text. -/
theorem wordExcerpt_limit (s : List Char) (n : Nat) :
    (n < (wordExcerpt s n).length ↔ n < s.length ∧ n < ellipsis.length) ∧
    (if s.length ≤ n then wordExcerpt s n = s
      else ∃ w, w <+: s ∧ wordExcerpt s n = w ++ ellipsis ∧
        (BreaksAt s n w.length ∨ w.length = n - ellipsis.length ∧ ∀ p, ¬ BreaksAt s n p)) ∧
    ∀ r : Record, (r.excerpt n).toList = wordExcerpt r.header.rawContent.toList n := by
  have hrecord : ∀ r : Record, (r.excerpt n).toList = wordExcerpt r.header.rawContent.toList n :=
    fun _ => String.toList_ofList
  by_cases hfits : s.length ≤ n
  · have hwhole : wordExcerpt s n = s := if_pos (Int.ofNat_le.2 hfits)
    rw [if_pos hfits, hwhole]
    exact ⟨by omega, rfl, hrecord⟩
  · obtain ⟨w, hw, heq, hcut⟩ := exists_wordExcerpt_eq (Nat.lt_of_not_le hfits)
    rw [if_neg hfits]
    refine ⟨?_, ⟨w, hw, heq, hcut⟩, hrecord⟩
    rw [heq, List.length_append]
    rcases hcut with ⟨-, hroom, -⟩ | ⟨hlength, -⟩ <;> omega

/-- **A limit may be exceeded and a word cut.**  The ellipsis alone is longer than two characters;
and the last space of eight characters leaves it no room, so a word is cut though the space before
would have left room. -/
theorem not_limited_at_word :
    2 < (wordExcerpt "abcd".toList 2).length ∧
      ∃ w : List Char, wordExcerpt "ab cdef ghij".toList 8 = w ++ ellipsis ∧
        "ab cdef ghij".toList[w.length]? ≠ some ' ' ∧ 0 < 2 ∧ 2 ≤ 8 - ellipsis.length ∧
        "ab cdef ghij".toList[2]? = some ' ' :=
  ⟨by decide, "ab cd".toList, by decide, by decide, by decide, by decide, by decide⟩

end Text

end SiteTemplates
