import SiteTemplates.Proofs.Cache.Incremental
import SiteTemplates.Proofs.Cache.TemplateRun
import SiteTemplates.Proofs.Text.Glob

/-!
# The footprint of invalidation

A mark changes nothing but whether its name is found.  Templates and edges stay where they are, so
every invalidation of a sequence reads one and the same graph, and in the end those names are marked
that any of the sequence affects (`isInvalidated_invalidateEach`).  That is a matter of which names
the sequence holds; their order and how often they come make no difference.

A record takes with it the texts whose keys match its own key between two stars.  The keys that hold
its key are among them; a key with stars in it takes others as well, in which its parts are found
apart from one another (`keyMatches_starred`).
-/

namespace SiteTemplates

namespace TemplateCache

variable {c : TemplateCache} {n : String}

/-- Names are invalidated one after the other. -/
def invalidateEach (c : TemplateCache) (names : List String) : TemplateCache :=
  names.foldl invalidate c

theorem mem_affected_iff_dependents {name : String} :
    n ∈ c.affected name ↔ n = name ∨ n ∈ c.dependents name := by
  rw [mem_affected_iff, mem_dependents_iff]

theorem get?_eq (c : TemplateCache) (n : String) :
    c.get? n = if c.isInvalidated n then none else (c.entries.get? n).map Stamped.value := by
  rw [get?, entry?]
  split <;> rfl

/-! ### What stays -/

theorem entries_invalidateEach (c : TemplateCache) (names : List String) :
    (c.invalidateEach names).entries = c.entries := by
  induction names generalizing c with
  | nil => rfl
  | cons name names ih => exact ih (c.invalidate name)

theorem dependencies_invalidateEach (c : TemplateCache) (names : List String) (n : String) :
    (c.invalidateEach names).dependencies n = c.dependencies n := by
  induction names generalizing c with
  | nil => rfl
  | cons name names ih => exact ih (c.invalidate name)

theorem dependents_invalidateEach (c : TemplateCache) (names : List String) (n : String) :
    (c.invalidateEach names).dependents n = c.dependents n := by
  induction names generalizing c with
  | nil => rfl
  | cons name names ih => exact ih (c.invalidate name)

/-! ### What is marked -/

/-- **Marks of a sequence.**  A name is marked if it was so before or if one of the names affects
it, in the graph that there was at the beginning. -/
theorem isInvalidated_invalidateEach (c : TemplateCache) (names : List String) (n : String) :
    (c.invalidateEach names).isInvalidated n = true ↔
      c.isInvalidated n = true ∨ ∃ name ∈ names, n ∈ c.affected name := by
  induction names generalizing c with
  | nil => simp [invalidateEach]
  | cons name names ih =>
    have hrest : (c.invalidateEach (name :: names)).isInvalidated n = true ↔
        (c.invalidate name).isInvalidated n = true ∨ ∃ other ∈ names, n ∈ c.affected other :=
      ih (c.invalidate name)
    rw [hrest, isInvalidated_invalidate, Bool.or_eq_true, decide_eq_true_iff, ← mem_affected_iff,
      List.exists_mem_cons_iff]
    constructor
    · rintro ((h | h) | h)
      · exact .inr (.inl h)
      · exact .inl h
      · exact .inr (.inr h)
    · rintro (h | h | h)
      · exact .inl (.inr h)
      · exact .inl (.inl h)
      · exact .inr h

theorem get?_invalidate (c : TemplateCache) (name n : String) :
    (c.invalidate name).get? n = if n ∈ c.affected name then none else c.get? n := by
  rw [get?, entry?_invalidate]
  by_cases h : n ∈ c.affected name
  · rw [if_pos h, if_pos (mem_affected_iff.1 h)]
    rfl
  · rw [if_neg h, if_neg (mt mem_affected_iff.2 h)]
    rfl

/-- The order of the names and their repetitions make no difference. -/
theorem isInvalidated_invalidateEach_congr {names others : List String}
    (h : ∀ name, name ∈ names ↔ name ∈ others) (c : TemplateCache) (n : String) :
    (c.invalidateEach names).isInvalidated n = (c.invalidateEach others).isInvalidated n := by
  rw [Bool.eq_iff_iff, isInvalidated_invalidateEach, isInvalidated_invalidateEach]
  simp only [h]

theorem get?_invalidateEach_congr {names others : List String}
    (h : ∀ name, name ∈ names ↔ name ∈ others) (c : TemplateCache) (n : String) :
    (c.invalidateEach names).get? n = (c.invalidateEach others).get? n := by
  rw [get?_eq, get?_eq, isInvalidated_invalidateEach_congr h, entries_invalidateEach,
    entries_invalidateEach]

end TemplateCache

namespace CacheManager

/-- **The footprint of an invalidation.**  It marks the name and what depends on it directly, and
those are not found any more; all other names are found as before, and no edge changes.  A sequence
of invalidations has one result, whatever the order of its names and however often they come.  In
the caches together every text is dropped besides, and nothing else changes. -/
theorem footprint_invalidateTemplate (c : CacheManager) (name : String) :
    let t := c.templates
    let t' := t.invalidate name
    let c' := c.invalidateTemplate name
    ((∀ n, n ∈ t.affected name ↔ n = name ∨ n ∈ t.dependents name) ∧
      (∀ n ∈ t.affected name, t'.isInvalidated n = true ∧ t'.get? n = none) ∧
      (∀ n, n ∉ t.affected name →
        t'.isInvalidated n = t.isInvalidated n ∧ t'.get? n = t.get? n) ∧
      ∀ n, t'.dependencies n = t.dependencies n ∧ t'.dependents n = t.dependents n) ∧
    (∀ names others : List String, (∀ n, n ∈ names ↔ n ∈ others) → ∀ n,
      (t.invalidateEach names).get? n = (t.invalidateEach others).get? n ∧
      (t.invalidateEach names).isInvalidated n = (t.invalidateEach others).isInvalidated n ∧
      (t.invalidateEach names).dependencies n = (t.invalidateEach others).dependencies n ∧
      (t.invalidateEach names).dependents n = (t.invalidateEach others).dependents n) ∧
    c'.templates = t' ∧ (∀ key, c'.renders.contains key = false) ∧
      c'.renders.hits = c.renders.hits ∧ c'.renders.misses = c.renders.misses ∧
      c'.contents = c.contents := by
  intro t t' c'
  have hmark : ∀ n, t'.isInvalidated n = (decide (n ∈ t.affected name) || t.isInvalidated n) := by
    intro n
    rw [TemplateCache.isInvalidated_invalidate]
    simp only [TemplateCache.mem_affected_iff]
  have hget : ∀ n, t'.get? n = if n ∈ t.affected name then none else t.get? n :=
    TemplateCache.get?_invalidate t name
  refine ⟨⟨fun n => TemplateCache.mem_affected_iff_dependents, fun n hn => ?_, fun n hn => ?_,
    fun n => ⟨rfl, rfl⟩⟩, fun names others h n => ?_, rfl, fun key => ?_, rfl, rfl, rfl⟩
  · rw [hmark, hget, if_pos hn, decide_eq_true hn]
    exact ⟨rfl, rfl⟩
  · rw [hmark, hget, if_neg hn, decide_eq_false hn]
    exact ⟨rfl, rfl⟩
  · refine ⟨TemplateCache.get?_invalidateEach_congr h t n,
      TemplateCache.isInvalidated_invalidateEach_congr h t n, ?_, ?_⟩
    · rw [TemplateCache.dependencies_invalidateEach, TemplateCache.dependencies_invalidateEach]
    · rw [TemplateCache.dependents_invalidateEach, TemplateCache.dependents_invalidateEach]
  · have hnone : c'.renders.entries.get? key = none := RenderCache.get?_invalidate_star
    rw [RenderCache.contains, Table.contains, hnone]
    rfl

/-- A page that includes itself and, by an edge that was added by hand, a header that includes the
page. -/
def entangled : CacheManager :=
  let t := TemplateCache.empty.put AllowedRun.newYear "page" ⟨"page", "{{> page}}", by decide⟩
  ⟨.empty, (t.addDependency "page" "head").addDependency "head" "page",
    ⟨1, Table.empty.insert "k" ⟨"hi", 0⟩, 3, 4, Nat.one_pos⟩⟩

/-- The header takes the page with it, and the order in which the two are invalidated does not
matter. -/
theorem footprint_invalidateTemplate_entangled :
    let names := ["head", "page"]
    let others := ["page", "head", "page"]
    (∀ n, n ∈ names ↔ n ∈ others) ∧
      (∀ n, (entangled.templates.invalidateEach names).get? n =
        (entangled.templates.invalidateEach others).get? n) ∧
      (entangled.templates.get? "page").isSome = true ∧
      "page" ∈ entangled.templates.affected "head" ∧
      (entangled.templates.invalidate "head").get? "page" = none := by
  intro names others
  have hsame : ∀ n, n ∈ names ↔ n ∈ others := by
    intro n
    simp only [names, others, List.mem_cons, List.not_mem_nil, or_false]
    tauto
  have hdepends : "head" ∈ entangled.templates.dependencies "page" :=
    TemplateCache.mem_dependencies_iff.2 (.inr (by decide))
  have haffected : "page" ∈ entangled.templates.affected "head" :=
    TemplateCache.mem_affected_iff.2 (.inr hdepends)
  obtain ⟨⟨-, hgone, -⟩, hsequences, -⟩ := footprint_invalidateTemplate entangled "head"
  exact ⟨hsame, fun n => (hsequences names others hsame n).1, rfl, haffected,
    (hgone "page" haffected).2⟩

/-! ### Records -/

theorem keyMatches_starred (key k : String) :
    RenderCache.keyMatches ("*" ++ key ++ "*") k = true ↔
      Text.InOrder (Text.splitAll '*' key.toList) k.toList := by
  have hpattern : ("*" ++ key ++ "*").toList = '*' :: key.toList ++ ['*'] := by
    rw [String.toList_append, String.toList_append]
    rfl
  rw [RenderCache.keyMatches, hpattern, Text.globMatches_starred]

/-- **The footprint of a record.**  Invalidation removes the record of the key and no other, and the
texts in whose keys the parts of the key between its stars stand in order; those are all that hold
the key, and no others if the key has no star.  All else stays. -/
theorem footprint_invalidateContent (c : CacheManager) (key : String) :
    let c' := c.invalidateContent key
    let parts := Text.splitAll '*' key.toList
    (∀ k, c'.contents.entries.get? k = if k = key then none else c.contents.entries.get? k) ∧
    (∀ k, Text.InOrder parts k.toList → c'.renders.entries.get? k = none) ∧
    (∀ k, ¬ Text.InOrder parts k.toList →
      c'.renders.entries.get? k = c.renders.entries.get? k) ∧
    (∀ k : String, key.toList <:+: k.toList → Text.InOrder parts k.toList) ∧
    ('*' ∉ key.toList → ∀ k : String, Text.InOrder parts k.toList ↔ key.toList <:+: k.toList) ∧
    c'.renders.hits = c.renders.hits ∧ c'.renders.misses = c.renders.misses ∧
      c'.renders.capacity = c.renders.capacity ∧ c'.templates = c.templates := by
  intro c' parts
  have hget : ∀ k, c'.renders.entries.get? k =
      if RenderCache.keyMatches ("*" ++ key ++ "*") k then none else c.renders.entries.get? k :=
    fun k => RenderCache.get?_invalidate _
  refine ⟨fun k => Table.get?_erase _ _ _, fun k h => ?_, fun k h => ?_,
    fun k h => Text.inOrder_splitAll_of_infix h, fun h k => Text.inOrder_splitAll_iff h,
    rfl, rfl, rfl, rfl⟩
  · rw [hget, if_pos ((keyMatches_starred key k).2 h)]
  · rw [hget, if_neg (mt (keyMatches_starred key k).1 h)]

def keepingOne (key : String) : CacheManager :=
  ⟨.empty, .empty, ⟨1, Table.empty.insert key ⟨"hi", 0⟩, 0, 0, Nat.one_pos⟩⟩

/-- The points in a key stand for themselves. -/
theorem footprint_invalidateContent_points :
    '*' ∉ "a.b".toList ∧ "a.b".toList <:+: "page:a.b".toList ∧
      ¬ "a.b".toList <:+: "page:axb".toList ∧
      ((keepingOne "page:a.b").invalidateContent "a.b").renders.entries.get? "page:a.b" = none ∧
      ((keepingOne "page:axb").invalidateContent "a.b").renders.entries.get? "page:axb" =
        (keepingOne "page:axb").renders.entries.get? "page:axb" := by
  have hstar : '*' ∉ "a.b".toList := by decide
  have hinfix : "a.b".toList <:+: "page:a.b".toList := by decide
  have hother : ¬ "a.b".toList <:+: "page:axb".toList := by decide
  obtain ⟨-, hgone, -, hholds, -⟩ := footprint_invalidateContent (keepingOne "page:a.b") "a.b"
  obtain ⟨-, -, hkept, -, hiff, -⟩ := footprint_invalidateContent (keepingOne "page:axb") "a.b"
  exact ⟨hstar, hinfix, hother, hgone _ (hholds _ hinfix), hkept _ (mt (hiff hstar _).1 hother)⟩

/-- A key with a star takes a text with it whose key does not hold it. -/
theorem dropped_of_not_infix :
    ¬ "a*b".toList <:+: "axb".toList ∧ (keepingOne "axb").renders.contains "axb" = true ∧
      ((keepingOne "axb").invalidateContent "a*b").renders.contains "axb" = false := by
  refine ⟨by decide, by decide, ?_⟩
  decide

end CacheManager

end SiteTemplates
