import SiteTemplates.Proofs.Cache.Lookup
import SiteTemplates.Proofs.Text.Glob

/-!
# Removal by a pattern

The parts of a pattern are the texts between its stars: joined by stars they give the pattern back,
and none of them holds a star, so there is one such list of parts only.  A key matches if one text
can be put in the place of each star so that the key comes out (`spans_iff_exists_between`).

Removal by a pattern takes out the entries whose keys match and counts them.  What stays keeps its
place, its text and its time (`invalidate_takes_matching`).
-/

namespace SiteTemplates

namespace Text

/-! ### One text for each star -/

theorem spans_iff_exists_between {first : List Char} {rest : List (List Char)} {s : List Char} :
    Spans (first :: rest) s ↔ ∃ between : List (List Char), between.length = rest.length ∧
      s = first ++ (between.zipWith (· ++ ·) rest).flatten := by
  induction rest generalizing first s with
  | nil =>
    rw [spans_singleton_iff]
    constructor
    · intro hs
      exact ⟨[], rfl, by simpa using hs⟩
    · rintro ⟨between, hlength, hs⟩
      obtain rfl := List.eq_nil_of_length_eq_zero hlength
      simpa using hs
  | cons part rest ih =>
    rw [spans_cons_iff (List.cons_ne_nil part rest)]
    constructor
    · rintro ⟨w, t, rfl, ht⟩
      obtain ⟨between, hlength, rfl⟩ := ih.1 ht
      exact ⟨w :: between, by simp [hlength], by simp⟩
    · rintro ⟨between, hlength, rfl⟩
      cases between with
      | nil => cases hlength
      | cons w between =>
        refine ⟨w, part ++ (between.zipWith (· ++ ·) rest).flatten, by simp, ih.2 ?_⟩
        exact ⟨between, Nat.succ.inj hlength, rfl⟩

end Text

namespace RenderCache

theorem entries_invalidate (c : RenderCache) (pattern : String) :
    (c.invalidate pattern).entries.entries =
      c.entries.entries.filter (fun e => !keyMatches pattern e.1) := rfl

theorem countMatches_add_size_invalidate (c : RenderCache) (pattern : String) :
    c.countMatches pattern + (c.invalidate pattern).size = c.size := by
  have hcount : c.countMatches pattern =
      c.entries.entries.countP (fun e => keyMatches pattern e.1) := by
    rw [countMatches, Table.keys, List.countP_map]
    rfl
  have hsize : (c.invalidate pattern).size =
      c.entries.entries.countP (fun e => !keyMatches pattern e.1) := by
    rw [size, Table.size, entries_invalidate, List.countP_eq_length_filter]
  rw [hcount, hsize, size, Table.size,
    List.length_eq_countP_add_countP (fun e => keyMatches pattern e.1)]
  simp

/-- **Removal by a pattern.**  With the parts `first`, … of the pattern between its stars, a key
matches exactly if it is `first`, then a text of any kind and the next part, and so on.  The entries
with such keys are removed and counted; the others stay with their texts and times, in their
order, and so do the counts of lookups. -/
theorem invalidate_takes_matching (pattern : String) :
    ∃ first rest, Text.joined ['*'] (first :: rest) = pattern.toList ∧
      (∀ part ∈ first :: rest, '*' ∉ part) ∧
      (∀ key : String, keyMatches pattern key = true ↔
        ∃ between : List (List Char), between.length = rest.length ∧
          key.toList = first ++ (between.zipWith (· ++ ·) rest).flatten) ∧
      ∀ c : RenderCache,
        let c' := c.invalidate pattern
        c'.entries.entries.Sublist c.entries.entries ∧
        (∀ e, e ∈ c'.entries.entries ↔ e ∈ c.entries.entries ∧ keyMatches pattern e.1 = false) ∧
        c.countMatches pattern + c'.size = c.size ∧
        c'.capacity = c.capacity ∧ c'.hits = c.hits ∧ c'.misses = c.misses := by
  cases hsplit : Text.splitAll '*' pattern.toList with
  | nil => exact absurd hsplit (Text.splitAll_ne_nil '*' pattern.toList)
  | cons first rest =>
    refine ⟨first, rest, ?_, ?_, ?_, ?_⟩
    · rw [← hsplit, Text.joined_splitAll]
    · intro part hpart
      rw [← hsplit] at hpart
      exact Text.not_mem_of_mem_splitAll hpart
    · intro key
      rw [keyMatches, Text.globMatches_iff, hsplit, Text.spans_iff_exists_between]
    · intro c c'
      refine ⟨List.filter_sublist, ?_, c.countMatches_add_size_invalidate pattern, rfl, rfl, rfl⟩
      intro e
      rw [entries_invalidate, List.mem_filter, Bool.not_eq_true']

end RenderCache

end SiteTemplates
