import SiteTemplates.Proofs.Cache.Lookup

/-!
# Runs of the template cache

What is done with the template cache, one command after the other, while a clock shows the time.
The graph of templates is seen through two memberships: `mem_dependents_iff` turns an edge around,
and `mem_affected_iff` says which names are marked together.  Marks are seen through
`TemplateCache.entry?`, which finds an entry unless its name is marked; each operation has one
equation for it.
-/

namespace SiteTemplates

theorem mem_sortedNames_iff {names : List String} {n : String} :
    n ∈ sortedNames names ↔ n ∈ names := by
  rw [sortedNames, List.mem_mergeSort, List.mem_eraseDups]

namespace TemplateCache

variable {c : TemplateCache} {n : String}

/-! ### The graph -/

theorem mem_dependencies_iff {d : String} : d ∈ c.dependencies n ↔
    d ∈ (c.included.get? n).getD [] ∨ d ∈ (c.added.get? n).getD [] := by
  rw [dependencies, mem_sortedNames_iff, List.mem_append]

theorem mem_keys_of_mem_getD {t : Table (List String)} {d : String}
    (h : d ∈ (t.get? n).getD []) : n ∈ t.keys := by
  refine Decidable.by_contra fun hn => ?_
  rw [Table.get?_eq_none_iff.2 hn] at h
  cases h

/-- The dependents of a name are what depends on it. -/
theorem mem_dependents_iff {name : String} :
    n ∈ c.dependents name ↔ name ∈ c.dependencies n := by
  rw [dependents, mem_sortedNames_iff, List.mem_filter, List.contains_iff_mem]
  refine ⟨And.right, fun h => ⟨List.mem_append.2 ?_, h⟩⟩
  exact (mem_dependencies_iff.1 h).imp mem_keys_of_mem_getD mem_keys_of_mem_getD

/-- What is marked together with a name: itself and what depends on it. -/
theorem mem_affected_iff {name : String} :
    n ∈ c.affected name ↔ n = name ∨ name ∈ c.dependencies n := by
  rw [affected, mem_sortedNames_iff, List.mem_cons, mem_dependents_iff]

/-! ### What is found -/

theorem entry?_put (now : Moment) (name : String) (t : Template) :
    entry? (c.put now name t) n = if n = name then some ⟨t, now.instant⟩ else c.entry? n := by
  have he : (c.put now name t).entries.get? n =
      if n = name then some ⟨t, now.instant⟩ else c.entries.get? n := Table.get?_insert _ _ _ _
  unfold entry?
  rw [isInvalidated_put, he]
  by_cases h : n = name
  · rw [if_pos h, if_pos h, if_pos h, if_neg Bool.false_ne_true]
  · rw [if_neg h, if_neg h, if_neg h]

theorem get?_foldl_insert (names : List String) (t : Table Unit) :
    (names.foldl (fun t n => t.insert n ()) t).get? n =
      if n ∈ names then some () else t.get? n := by
  induction names generalizing t with
  | nil => rfl
  | cons name names ih =>
    rw [List.foldl_cons, ih, Table.get?_insert]
    by_cases h : n = name <;> simp [h]

theorem isInvalidated_invalidate (name : String) : (c.invalidate name).isInvalidated n =
    (decide (n = name ∨ name ∈ c.dependencies n) || c.isInvalidated n) := by
  rw [isInvalidated, Table.contains, invalidate, get?_foldl_insert, Bool.eq_iff_iff]
  simp only [mem_affected_iff]
  split <;> simp_all [isInvalidated, Table.contains]

theorem entry?_invalidate (name : String) : entry? (c.invalidate name) n =
    if n = name ∨ name ∈ c.dependencies n then none else c.entry? n := by
  have he : (c.invalidate name).entries = c.entries := rfl
  unfold entry?
  rw [isInvalidated_invalidate, he]
  by_cases h : n = name ∨ name ∈ c.dependencies n <;> simp [h]

theorem entry?_remove (name : String) :
    entry? (c.remove name) n = if n = name then none else c.entry? n := by
  have he : (c.remove name).entries.get? n = if n = name then none else c.entries.get? n :=
    Table.get?_erase _ _ _
  have hi : (c.remove name).isInvalidated n = if n = name then false else c.isInvalidated n := by
    rw [isInvalidated, Table.contains, remove, Table.get?_erase]
    split <;> rfl
  unfold entry?
  rw [hi, he]
  by_cases h : n = name <;> simp [h]

end TemplateCache

/-! ### Commands -/

/-- What is done with the template cache. -/
inductive TemplateCommand where
  | put (name : String) (t : Template)
  | addDependency (name dependency : String)
  | invalidate (name : String)
  | remove (name : String)
  | clear
  | setClock (now : Moment)

/-- A template cache and the time that the clock shows. -/
structure TemplateState where
  cache : TemplateCache
  now : Moment

namespace TemplateState

def step (w : TemplateState) : TemplateCommand → TemplateState
  | .put name t => { w with cache := w.cache.put w.now name t }
  | .addDependency name dependency =>
    { w with cache := w.cache.addDependency name dependency }
  | .invalidate name => { w with cache := w.cache.invalidate name }
  | .remove name => { w with cache := w.cache.remove name }
  | .clear => { w with cache := .empty }
  | .setClock now => { w with now }

/-- What commands make of cache and clock, one after the other. -/
def run (w : TemplateState) (commands : List TemplateCommand) : TemplateState :=
  commands.foldl step w

end TemplateState

end SiteTemplates
