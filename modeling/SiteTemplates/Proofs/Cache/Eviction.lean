import SiteTemplates.Proofs.Cache.Lookup

/-!
# Making room in the render cache

A new key that finds the cache full drives out the oldest entry, and of several that are equally old
the one that came first.  In the order of the entries that is the one that is strictly older than
all before it and no younger than any after it (`exists_oldest`); it is taken out of its place and
the new entry goes behind all others (`entries_insert_of_full`).  A cache always has an entry to
drive out when it is full, because there is room for one at least.
-/

namespace SiteTemplates.RenderCache

/-- With room for one text or more, a cache can be made, which holds none. -/
theorem exists_ofCapacity {capacity : Int} (h : 1 ≤ capacity) :
    ∃ empty, ofCapacity capacity = .ok empty ∧ (empty.capacity : Int) = capacity ∧
      empty.entries = Table.empty ∧ ∀ key, empty.contains key = false := by
  have hpos : 1 ≤ capacity.toNat := by omega
  refine ⟨⟨capacity.toNat, Table.empty, 0, 0, hpos⟩, ?_, Int.toNat_of_nonneg (by omega), rfl,
    fun _ => rfl⟩
  rw [ofCapacity, dif_pos hpos]

/-! ### The oldest entry -/

theorem foldl_older (e : String × Stamped String) (es : List (String × Stamped String)) :
    ∃ before after, e :: es = before ++ es.foldl older e :: after ∧
      (∀ x ∈ before, (es.foldl older e).2.stamp < x.2.stamp) ∧
      ∀ x ∈ after, (es.foldl older e).2.stamp ≤ x.2.stamp := by
  induction es generalizing e with
  | nil => exact ⟨[], [], rfl, by simp, by simp⟩
  | cons d es ih =>
    rw [List.foldl_cons]
    obtain ⟨before, after, hsplit, hbefore, hafter⟩ := ih (older e d)
    -- the one of `e` and `d` that is left out is put back in front
    by_cases hd : d.2.stamp < e.2.stamp
    · have hold : older e d = d := by rw [older, if_pos hd]
      rw [hold] at hsplit hbefore hafter ⊢
      have hmin : (es.foldl older d).2.stamp ≤ d.2.stamp := by
        have hmem : d ∈ before ++ es.foldl older d :: after := by
          rw [← hsplit]
          exact List.mem_cons_self
        rcases List.mem_append.1 hmem with h | h
        · exact Int.le_of_lt (hbefore d h)
        · rcases List.mem_cons.1 h with h | h
          · exact Int.le_of_eq (by rw [← h])
          · exact hafter d h
      refine ⟨e :: before, after, by rw [List.cons_append, ← hsplit], fun x hx => ?_, hafter⟩
      rcases List.mem_cons.1 hx with rfl | hx
      · omega
      · exact hbefore x hx
    · have hold : older e d = e := by rw [older, if_neg hd]
      rw [hold] at hsplit hbefore hafter ⊢
      cases before with
      | nil =>
        obtain ⟨he, rfl⟩ := List.cons.inj hsplit
        refine ⟨[], d :: es, ?_, by simp, fun x hx => ?_⟩
        · rw [List.nil_append, ← he]
        · rw [← he] at hafter ⊢
          rcases List.mem_cons.1 hx with rfl | hx
          · omega
          · exact hafter x hx
      | cons x before =>
        obtain ⟨rfl, hrest⟩ := List.cons.inj hsplit
        refine ⟨e :: d :: before, after, congrArg (e :: d :: ·) hrest, fun x hx => ?_, hafter⟩
        have he := hbefore e List.mem_cons_self
        rcases List.mem_cons.1 hx with rfl | hx
        · exact he
        rcases List.mem_cons.1 hx with rfl | hx
        · omega
        · exact hbefore x (List.mem_cons_of_mem e hx)

/-- **The oldest entry** is strictly older than all before it and no younger than any after it. -/
theorem exists_oldest {es : List (String × Stamped String)} (h : es ≠ []) :
    ∃ before e after, es = before ++ e :: after ∧ oldest? es = some e.1 ∧
      (∀ x ∈ before, e.2.stamp < x.2.stamp) ∧ ∀ x ∈ after, e.2.stamp ≤ x.2.stamp := by
  cases es with
  | nil => exact absurd rfl h
  | cons e es =>
    obtain ⟨before, after, hsplit, hbefore, hafter⟩ := foldl_older e es
    exact ⟨before, es.foldl older e, after, hsplit, rfl, hbefore, hafter⟩

/-! ### Writing a text -/

variable {c : RenderCache} {key : String}

theorem entries_ne_nil_of_full (h : c.capacity ≤ c.size) : c.entries.entries ≠ [] := by
  intro hnil
  have hsize : c.size = 0 := by rw [size, Table.size, hnil]; rfl
  have hpos := c.capacity_pos
  omega

theorem makeRoom_of_contains (h : c.contains key = true) : c.makeRoom key = c := by
  have hc : c.entries.contains key = true := h
  rw [makeRoom, hc, Bool.true_or, if_pos rfl]

theorem makeRoom_of_room (h : c.size < c.capacity) : c.makeRoom key = c := by
  have hs : decide (c.entries.size < c.capacity) = true := decide_eq_true h
  rw [makeRoom, hs, Bool.or_true, if_pos rfl]

theorem makeRoom_of_full (hk : c.contains key = false) (h : c.capacity ≤ c.size) :
    ∃ before e after, c.entries.entries = before ++ e :: after ∧
      oldest? c.entries.entries = some e.1 ∧
      c.makeRoom key = { c with entries := c.entries.erase e.1 } ∧
      (∀ x ∈ before, e.2.stamp < x.2.stamp) ∧ ∀ x ∈ after, e.2.stamp ≤ x.2.stamp := by
  obtain ⟨before, e, after, hsplit, holdest, hbefore, hafter⟩ :=
    exists_oldest (entries_ne_nil_of_full h)
  refine ⟨before, e, after, hsplit, holdest, ?_, hbefore, hafter⟩
  have hc : c.entries.contains key = false := hk
  have hs : decide (c.entries.size < c.capacity) = false := decide_eq_false (Nat.not_lt.2 h)
  rw [makeRoom, hc, hs, Bool.or_false, if_neg Bool.false_ne_true, holdest]

/-- Making room changes nothing but the entries. -/
theorem exists_makeRoom_eq (c : RenderCache) (key : String) :
    ∃ entries, c.makeRoom key = { c with entries } := by
  unfold makeRoom
  split
  · exact ⟨c.entries, rfl⟩
  · split
    · exact ⟨_, rfl⟩
    · exact ⟨c.entries, rfl⟩

@[simp] theorem capacity_makeRoom : (c.makeRoom key).capacity = c.capacity := by
  obtain ⟨entries, h⟩ := exists_makeRoom_eq c key
  rw [h]

/-- Writing a text is no lookup. -/
theorem counters_insert (c : RenderCache) (key value : String) (stamp : Int) :
    (c.insert key value stamp).hits = c.hits ∧ (c.insert key value stamp).misses = c.misses := by
  obtain ⟨entries, h⟩ := exists_makeRoom_eq c key
  show (c.makeRoom key).hits = c.hits ∧ (c.makeRoom key).misses = c.misses
  rw [h]
  exact ⟨rfl, rfl⟩

@[simp] theorem capacity_insert (value : String) (stamp : Int) :
    (c.insert key value stamp).capacity = c.capacity := capacity_makeRoom

/-- A text for a new key goes behind the others as long as there is room. -/
theorem entries_insert_of_room (hk : c.contains key = false) (h : c.size < c.capacity)
    (value : String) (stamp : Int) :
    (c.insert key value stamp).entries.entries = c.entries.entries ++ [(key, ⟨value, stamp⟩)] := by
  rw [insert, makeRoom_of_room h]
  exact Table.entries_insert_of_not_contains hk _

/-- **Eviction.** In a full cache the text for a new key drives out the oldest one. -/
theorem entries_insert_of_full (hk : c.contains key = false) (h : c.capacity ≤ c.size)
    (value : String) (stamp : Int) :
    ∃ before e after, c.entries.entries = before ++ e :: after ∧
      oldest? c.entries.entries = some e.1 ∧
      (c.insert key value stamp).entries.entries =
        before ++ after ++ [(key, ⟨value, stamp⟩)] ∧
      (∀ x ∈ before, e.2.stamp < x.2.stamp) ∧ ∀ x ∈ after, e.2.stamp ≤ x.2.stamp := by
  obtain ⟨before, e, after, hsplit, holdest, hroom, hbefore, hafter⟩ := makeRoom_of_full hk h
  refine ⟨before, e, after, hsplit, holdest, ?_, hbefore, hafter⟩
  have hk' : (c.entries.erase e.1).contains key = false := by
    have hnone : c.entries.get? key = none := by
      rw [Table.get?_eq_none_iff]
      exact Table.contains_eq_false_iff.1 hk
    rw [Table.contains, Table.get?_erase, hnone]
    split <;> rfl
  rw [insert, hroom]
  show ((c.entries.erase e.1).insert key _).entries = _
  rw [Table.entries_insert_of_not_contains hk', Table.entries_erase hsplit]

/-- There are never more texts than there is room for. -/
theorem size_insert_le (h : c.size ≤ c.capacity) (value : String) (stamp : Int) :
    (c.insert key value stamp).size ≤ c.capacity := by
  cases hk : c.contains key with
  | true =>
    rw [insert, makeRoom_of_contains hk]
    show (c.entries.insert key _).size ≤ c.capacity
    rwa [Table.size_insert_of_contains hk]
  | false =>
    rcases Nat.lt_or_ge c.size c.capacity with hroom | hfull
    · rw [size, Table.size, entries_insert_of_room hk hroom, List.length_append]
      exact hroom
    · obtain ⟨before, e, after, hsplit, -, hentries, -, -⟩ :=
        entries_insert_of_full hk hfull value stamp
      have hsize : c.size = (before ++ e :: after).length := by rw [← hsplit]; rfl
      rw [size, Table.size, hentries]
      simp only [List.length_append, List.length_cons, List.length_nil] at hsize ⊢
      omega

end SiteTemplates.RenderCache
