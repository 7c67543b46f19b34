/-!
# Tables

A table holds values under names, each name once, in the order in which the names first came.
Writing under a name that is there keeps its place.  All that is asked of a table is asked through
`get?` and through the order of its entries.
-/

namespace SiteTemplates

structure Table (α : Type) where
  entries : List (String × α)
  nodup : (entries.map Prod.fst).Nodup

namespace Table

variable {α : Type}

def empty : Table α := ⟨[], .nil⟩

def keys (t : Table α) : List String := t.entries.map Prod.fst

def size (t : Table α) : Nat := t.entries.length

def get? (t : Table α) (key : String) : Option α := t.entries.lookup key

def contains (t : Table α) (key : String) : Bool := (t.get? key).isSome

def putEntry (key : String) (value : α) : List (String × α) → List (String × α)
  | [] => [(key, value)]
  | (k, v) :: rest => if k = key then (k, value) :: rest else (k, v) :: putEntry key value rest

theorem keys_putEntry (key : String) (value : α) (es : List (String × α)) :
    (putEntry key value es).map Prod.fst =
      if key ∈ es.map Prod.fst then es.map Prod.fst else es.map Prod.fst ++ [key] := by
  induction es with
  | nil => simp [putEntry]
  | cons e rest ih =>
    obtain ⟨k, v⟩ := e
    by_cases hk : k = key
    · simp [putEntry, hk]
    · simp only [putEntry, hk, if_false, List.map_cons, ih, List.mem_cons]
      have : key ≠ k := fun h => hk h.symm
      by_cases hm : key ∈ rest.map Prod.fst <;> simp [hm, this]

theorem nodup_putEntry {key : String} {value : α} {es : List (String × α)}
    (h : (es.map Prod.fst).Nodup) : ((putEntry key value es).map Prod.fst).Nodup := by
  rw [keys_putEntry]
  split
  · exact h
  · rename_i hm
    refine List.nodup_append.2 ⟨h, by simp, ?_⟩
    intro a ha b hb
    simp only [List.mem_singleton] at hb
    rintro rfl
    exact hm (hb ▸ ha)

theorem lookup_cons_ite (key k : String) (v : α) (es : List (String × α)) :
    List.lookup key ((k, v) :: es) = if key = k then some v else es.lookup key := by
  by_cases h : key = k
  · simp [h]
  · have : (key == k) = false := by simp [h]
    simp [List.lookup_cons, this, h]

theorem lookup_putEntry (key : String) (value : α) (es : List (String × α)) (k : String) :
    (putEntry key value es).lookup k = if k = key then some value else es.lookup k := by
  induction es with
  | nil => simp [putEntry, lookup_cons_ite]
  | cons e rest ih =>
    obtain ⟨k', v'⟩ := e
    by_cases hk : k' = key
    · subst hk
      by_cases h : k = k' <;> simp [putEntry, lookup_cons_ite, h]
    · by_cases h : k = k'
      · have : k ≠ key := fun h' => hk (h ▸ h')
        simp [putEntry, hk, h]
      · simp [putEntry, hk, lookup_cons_ite, h, ih]

def insert (t : Table α) (key : String) (value : α) : Table α :=
  ⟨putEntry key value t.entries, nodup_putEntry t.nodup⟩

def filter (t : Table α) (keep : String → α → Bool) : Table α :=
  ⟨t.entries.filter (fun e => keep e.1 e.2), t.nodup.sublist (List.filter_sublist.map _)⟩

def erase (t : Table α) (key : String) : Table α := t.filter (fun k _ => k != key)

@[simp] theorem get?_empty (key : String) : (empty : Table α).get? key = none := rfl

@[simp] theorem get?_insert (t : Table α) (key : String) (value : α) (k : String) :
    (t.insert key value).get? k = if k = key then some value else t.get? k :=
  lookup_putEntry key value t.entries k

theorem keys_insert (t : Table α) (key : String) (value : α) :
    (t.insert key value).keys = if key ∈ t.keys then t.keys else t.keys ++ [key] :=
  keys_putEntry key value t.entries

theorem lookup_filter_keys (es : List (String × α)) (keep : String → Bool) (k : String) :
    (es.filter (fun e => keep e.1)).lookup k = if keep k then es.lookup k else none := by
  induction es with
  | nil => simp
  | cons e rest ih =>
    obtain ⟨k', v'⟩ := e
    cases hk : keep k' with
    | true =>
      by_cases h : k = k'
      · subst h
        simp [hk]
      · rw [List.filter_cons_of_pos (by simpa using hk), lookup_cons_ite, lookup_cons_ite, if_neg h,
          if_neg h, ih]
    | false =>
      rw [List.filter_cons_of_neg (by simp [hk]), ih, lookup_cons_ite]
      by_cases h : k = k'
      · subst h
        simp [hk]
      · rw [if_neg h]

@[simp] theorem get?_erase (t : Table α) (key k : String) :
    (t.erase key).get? k = if k = key then none else t.get? k := by
  have h := lookup_filter_keys t.entries (fun k => k != key) k
  simp only [erase, filter, get?]
  rw [h]
  by_cases hk : k = key <;> simp [hk]

/-! ### Names and entries -/

theorem get?_eq_none_iff {t : Table α} {key : String} : t.get? key = none ↔ key ∉ t.keys := by
  rw [get?, List.lookup_eq_none_iff, keys, List.mem_map]
  refine ⟨?_, fun h e he => ?_⟩
  · rintro h ⟨e, he, rfl⟩
    simpa using h e he
  · simpa using fun hk => h ⟨e, he, hk.symm⟩

theorem mem_entries_iff {t : Table α} {key : String} {value : α} :
    (key, value) ∈ t.entries ↔ t.get? key = some value := by
  obtain ⟨es, hd⟩ := t
  rw [get?, List.lookup_eq_some_iff]
  constructor
  · intro h
    obtain ⟨before, after, rfl⟩ := List.append_of_mem h
    refine ⟨before, after, rfl, fun e he => ?_⟩
    rw [List.map_append, List.nodup_append] at hd
    have hne := hd.2.2 e.1 (List.mem_map_of_mem he) key (by simp)
    simpa using Ne.symm hne
  · rintro ⟨before, after, rfl, -⟩
    simp

theorem contains_eq_false_iff {t : Table α} {key : String} :
    t.contains key = false ↔ key ∉ t.keys := by
  rw [contains, Option.isSome_eq_false_iff, Option.isNone_iff_eq_none, get?_eq_none_iff]

/-- A new name goes behind the others. -/
theorem entries_insert_of_not_contains {t : Table α} {key : String}
    (h : t.contains key = false) (value : α) :
    (t.insert key value).entries = t.entries ++ [(key, value)] := by
  have hput : ∀ es : List (String × α), key ∉ es.map Prod.fst →
      putEntry key value es = es ++ [(key, value)] := by
    intro es hk
    induction es with
    | nil => rfl
    | cons e rest ih =>
      rw [List.map_cons, List.mem_cons, not_or] at hk
      rw [putEntry, if_neg (Ne.symm hk.1), ih hk.2, List.cons_append]
  exact hput t.entries (contains_eq_false_iff.1 h)

/-- Writing under a name that is there does not change the number of names. -/
theorem size_insert_of_contains {t : Table α} {key : String} (h : t.contains key = true)
    (value : α) : (t.insert key value).size = t.size := by
  have hk : key ∈ t.keys := by
    have hn := mt contains_eq_false_iff.2 (by rw [h]; exact Bool.noConfusion)
    exact Decidable.not_not.1 hn
  have hkeys : (t.insert key value).keys = t.keys := by rw [keys_insert, if_pos hk]
  simpa [keys, size] using congrArg List.length hkeys

/-- Removing a name takes out its entry and leaves the order of the others. -/
theorem entries_erase {t : Table α} {before after : List (String × α)} {e : String × α}
    (h : t.entries = before ++ e :: after) : (t.erase e.1).entries = before ++ after := by
  obtain ⟨es, hd⟩ := t
  subst h
  rw [List.map_append, List.map_cons, List.nodup_append, List.nodup_cons] at hd
  obtain ⟨-, ⟨hafter, -⟩, hbefore⟩ := hd
  have hb : before.filter (fun x => x.1 != e.1) = before := by
    refine List.filter_eq_self.2 fun x hx => ?_
    simpa using hbefore x.1 (List.mem_map_of_mem hx) e.1 (by simp)
  have ha : after.filter (fun x => x.1 != e.1) = after := by
    refine List.filter_eq_self.2 fun x hx => ?_
    simpa using fun hx' => hafter (List.mem_map.2 ⟨x, hx, hx'⟩)
  simp [erase, filter, hb, ha]

end Table

end SiteTemplates
