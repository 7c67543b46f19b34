import Mathlib.Data.List.DropRight
import SiteTemplates.Proofs.Cache.Retention

/-!
# Recency in the render cache

Texts are put with times that grow, under keys that may come again, and keys are looked up in
between.  Then the oldest text in the cache is the one that was written longest ago, so the cache
holds the keys that were written last, as many as there is room for, each as it was last written
(`holdsRecent_run`).

`lastWrites` takes the last write of every key out of all writes, in their order.  The invariant is
that the entries of the cache are the end of that list, in whatever order the table keeps them
(`Recent`).  A new write takes the earlier one of its key out of the list and goes to its end
(`lastWrites_concat`).  If the key is in the cache or there is room, that is what happens to the end
of the list as well (`rtake_filter_of_kept`).  If not, the end loses its first member
(`rtake_filter_of_full`), and this is the entry that is driven out, because times grow along the
list.

The times in question are those that the local clock shows.  They grow where instants do, unless
that clock is set back in between (`TimesGrow`).
-/

namespace SiteTemplates

namespace RenderCache

/-! ### The last write of every key -/

/-- The writes that none of the same key follows. -/
def lastWrites : List (String × Stamped String) → List (String × Stamped String)
  | [] => []
  | e :: es => if e.1 ∈ es.map Prod.fst then lastWrites es else e :: lastWrites es

section Writes

variable {es l : List (String × Stamped String)} {e o : String × Stamped String} {key : String}

theorem lastWrites_sublist (es : List (String × Stamped String)) : (lastWrites es).Sublist es := by
  induction es with
  | nil => exact .slnil
  | cons e es ih =>
    rw [lastWrites]
    split
    · exact ih.cons e
    · exact ih.cons_cons e

theorem nodup_lastWrites (es : List (String × Stamped String)) :
    ((lastWrites es).map Prod.fst).Nodup := by
  induction es with
  | nil => exact .nil
  | cons e es ih =>
    rw [lastWrites]
    split
    · exact ih
    · rename_i he
      rw [List.map_cons, List.nodup_cons]
      exact ⟨fun h => he (((lastWrites_sublist es).map Prod.fst).subset h), ih⟩

/-- A write takes the place of the earlier one of its key. -/
theorem lastWrites_concat (es : List (String × Stamped String)) (e : String × Stamped String) :
    lastWrites (es ++ [e]) = (lastWrites es).filter (fun d => d.1 != e.1) ++ [e] := by
  induction es with
  | nil => simp [lastWrites]
  | cons d es ih =>
    rw [List.cons_append, lastWrites, lastWrites, ih]
    by_cases hd : d.1 ∈ es.map Prod.fst
    · rw [if_pos hd, if_pos (by simp only [List.map_append, List.mem_append, hd, true_or])]
    · by_cases he : d.1 = e.1
      · rw [if_neg hd, if_pos (by simp [he]), List.filter_cons_of_neg (by simp [he])]
      · have hde : d.1 ∉ (es ++ [e]).map Prod.fst := by
          rw [List.map_append, List.mem_append, not_or]
          exact ⟨hd, by simpa using he⟩
        rw [if_neg hd, if_neg hde, List.filter_cons_of_pos (by simpa using he), List.cons_append]

/-! ### The end of a list -/

theorem exists_append_rtake (l : List (String × Stamped String)) (n : Nat) :
    ∃ a, l = a ++ l.rtake n ∧ (l.rtake n).length ≤ n ∧ (a = [] ∨ (l.rtake n).length = n) := by
  refine ⟨l.take (l.length - n), (List.take_append_drop _ _).symm, ?_⟩
  rw [List.rtake, List.length_drop]
  by_cases hn : l.length ≤ n
  · have hzero : l.length - n = 0 := by omega
    exact ⟨by omega, .inl (by rw [hzero, List.take_zero])⟩
  · exact ⟨by omega, .inr (by omega)⟩

theorem rtake_eq_of_append {a r : List (String × Stamped String)} {n : Nat} (hr : r.length ≤ n)
    (ha : a = [] ∨ r.length = n) : (a ++ r).rtake n = r := by
  rcases ha with rfl | rfl
  · rw [List.nil_append, List.rtake, Nat.sub_eq_zero_of_le hr, List.drop_zero]
  · rw [List.rtake, List.length_append, Nat.add_sub_cancel, List.drop_left]

theorem length_filter_key (hd : (l.map Prod.fst).Nodup) (h : key ∈ l.map Prod.fst) :
    (l.filter (fun d => d.1 != key)).length + 1 = l.length := by
  obtain ⟨d, hdl, rfl⟩ := List.mem_map.1 h
  obtain ⟨before, after, rfl⟩ := List.append_of_mem hdl
  let t : Table (Stamped String) := ⟨before ++ d :: after, hd⟩
  have herase : t.entries.filter (fun x => x.1 != d.1) = before ++ after := Table.entries_erase rfl
  show (t.entries.filter _).length + 1 = _
  rw [herase]
  simp only [List.length_append, List.length_cons]
  omega

theorem filter_key_eq_self (h : key ∉ l.map Prod.fst) :
    l.filter (fun d => d.1 != key) = l := by
  refine List.filter_eq_self.2 fun d hd => ?_
  have hne : d.1 ≠ key := fun hk => h (hk ▸ List.mem_map_of_mem hd)
  simpa using hne

/-- Where the end of a list holds the key or has room, the key is taken out of the end. -/
theorem rtake_filter_of_kept {n : Nat} (hd : (l.map Prod.fst).Nodup)
    (h : key ∈ (l.rtake (n + 1)).map Prod.fst ∨ (l.rtake (n + 1)).length ≤ n) :
    (l.filter (fun d => d.1 != key)).rtake n = (l.rtake (n + 1)).filter (fun d => d.1 != key) := by
  obtain ⟨a, hl, hle, ha⟩ := exists_append_rtake l (n + 1)
  generalize l.rtake (n + 1) = r at *
  subst hl
  rw [List.map_append, List.nodup_append] at hd
  rw [List.filter_append]
  by_cases hk : key ∈ r.map Prod.fst
  · have hlength := length_filter_key hd.2.1 hk
    have hka : key ∉ a.map Prod.fst := fun hka => hd.2.2 key hka key hk rfl
    rw [filter_key_eq_self hka]
    exact rtake_eq_of_append (by omega) (ha.imp_right fun hr => by omega)
  · have hr := h.resolve_left hk
    have ha' : a = [] := ha.resolve_right (by omega)
    rw [ha', filter_key_eq_self hk]
    exact rtake_eq_of_append hr (.inl rfl)

/-- Where it does not, and is full, it loses its first member. -/
theorem rtake_filter_of_full {n : Nat} {r : List (String × Stamped String)}
    (hr : l.rtake (n + 1) = o :: r) (hfull : r.length = n) (h : key ∉ (o :: r).map Prod.fst) :
    (l.filter (fun d => d.1 != key)).rtake n = r := by
  obtain ⟨a, hl, -, -⟩ := exists_append_rtake l (n + 1)
  rw [hr] at hl
  rw [hl, List.filter_append, filter_key_eq_self h, ← List.singleton_append, ← List.append_assoc]
  exact rtake_eq_of_append hfull.le (.inr hfull)

end Writes

/-! ### The invariant -/

/-- The cache holds the last writes, as many as there is room for. -/
def Recent (c : RenderCache) (written : List (String × Stamped String)) : Prop :=
  ∀ key e, c.entries.get? key = some e ↔ (key, e) ∈ (lastWrites written).rtake c.capacity

/-- Times grow. -/
def Increasing (written : List (String × Stamped String)) : Prop :=
  written.Pairwise (fun d e => d.2.stamp < e.2.stamp)

variable {c : RenderCache} {written : List (String × Stamped String)}

theorem rtake_sublist (written : List (String × Stamped String)) (n : Nat) :
    ((lastWrites written).rtake n).Sublist (lastWrites written) := List.drop_sublist _ _

theorem nodup_rtake (written : List (String × Stamped String)) (n : Nat) :
    (((lastWrites written).rtake n).map Prod.fst).Nodup :=
  (nodup_lastWrites written).sublist ((rtake_sublist written n).map Prod.fst)

theorem Recent.perm (h : c.Recent written) :
    c.entries.entries.Perm ((lastWrites written).rtake c.capacity) := by
  refine (List.perm_ext_iff_of_nodup (.of_map _ c.entries.nodup)
    (.of_map _ (nodup_rtake written _))).2 fun e => ?_
  rw [← h e.1 e.2, Table.mem_entries_iff]

theorem Recent.size_eq (h : c.Recent written) :
    c.size = ((lastWrites written).rtake c.capacity).length := h.perm.length_eq

theorem Recent.contains_iff (h : c.Recent written) {key : String} :
    c.contains key = true ↔ key ∈ ((lastWrites written).rtake c.capacity).map Prod.fst := by
  rw [← (h.perm.map Prod.fst).mem_iff, ← Bool.not_eq_false, contains, Table.contains_eq_false_iff,
    Decidable.not_not]
  rfl

/-- **The entry that is driven out** is the one that was written longest ago. -/
theorem Recent.eq_of_oldest (h : c.Recent written) (hincreasing : Increasing written)
    {before after r : List (String × Stamped String)} {o x : String × Stamped String}
    (hentries : c.entries.entries = before ++ o :: after)
    (hbefore : ∀ y ∈ before, o.2.stamp < y.2.stamp) (hafter : ∀ y ∈ after, o.2.stamp ≤ y.2.stamp)
    (hr : (lastWrites written).rtake c.capacity = x :: r) : o = x := by
  have hmem : ∀ y, y ∈ c.entries.entries ↔ y ∈ x :: r := by
    intro y
    rw [h.perm.mem_iff, hr]
  have hsorted : Increasing (x :: r) := by
    rw [← hr]
    exact hincreasing.sublist ((rtake_sublist _ _).trans (lastWrites_sublist _))
  have hox : o.2.stamp ≤ x.2.stamp := by
    have hx := (hmem x).2 List.mem_cons_self
    rw [hentries, List.mem_append, List.mem_cons] at hx
    rcases hx with hx | rfl | hx
    · exact (hbefore x hx).le
    · exact le_rfl
    · exact hafter x hx
  have ho : o ∈ x :: r := (hmem o).1 (by rw [hentries]; simp)
  rcases List.mem_cons.1 ho with rfl | ho
  · rfl
  · exact absurd ((List.pairwise_cons.1 hsorted).1 o ho) (by omega)

theorem get?_insert_iff {t : Table (Stamped String)} {r : List (String × Stamped String)}
    {key : String} (hkey : key ∉ r.map Prod.fst)
    (h : ∀ k e, k ≠ key → (t.get? k = some e ↔ (k, e) ∈ r)) (new : Stamped String) (k : String)
    (e : Stamped String) : (t.insert key new).get? k = some e ↔ (k, e) ∈ r ++ [(key, new)] := by
  rw [Table.get?_insert, List.mem_append, List.mem_singleton, Prod.mk.injEq]
  by_cases hk : k = key
  · rw [if_pos hk]
    constructor
    · intro heq
      exact .inr ⟨hk, (Option.some.inj heq).symm⟩
    · rintro (hmem | ⟨-, rfl⟩)
      · exact absurd (hk ▸ List.mem_map_of_mem hmem) hkey
      · rfl
  · rw [if_neg hk, h k e hk]
    exact ⟨.inl, fun hmem => hmem.resolve_right fun hnew => hk hnew.1⟩

/-- Where the key is there or there is room, the entry of the key is renewed and no other one
changes. -/
theorem Recent.insert_of_kept (h : c.Recent written) {key : String}
    (hkept : c.contains key = true ∨ c.size < c.capacity) (e : Stamped String) :
    (c.insert key e.value e.stamp).Recent (written ++ [(key, e)]) := by
  obtain ⟨n, hn⟩ : ∃ n, c.capacity = n + 1 := ⟨c.capacity - 1, by have := c.capacity_pos; omega⟩
  have hroom : c.makeRoom key = c := hkept.elim makeRoom_of_contains makeRoom_of_room
  have hend : ((lastWrites written).filter (fun d => d.1 != key)).rtake n =
      ((lastWrites written).rtake c.capacity).filter (fun d => d.1 != key) := by
    have hsize := h.size_eq
    have hcontains := @Recent.contains_iff _ _ h key
    rw [hn] at hkept hsize hcontains ⊢
    refine rtake_filter_of_kept (nodup_lastWrites written) (hkept.imp hcontains.1 fun hlt => ?_)
    omega
  unfold Recent
  rw [capacity_insert, lastWrites_concat, hn, List.rtake_concat_succ, hend, RenderCache.insert,
    hroom]
  refine get?_insert_iff ?_ (fun k e' hk => ?_) e
  · simp
  · rw [h k e', List.mem_filter]
    simp [hk]

/-- A new key takes the place of the one that was written longest ago. -/
theorem Recent.insert_of_full (h : c.Recent written) (hincreasing : Increasing written)
    {key : String} (hnot : c.contains key = false) (hfull : c.capacity ≤ c.size)
    (e : Stamped String) : (c.insert key e.value e.stamp).Recent (written ++ [(key, e)]) := by
  obtain ⟨before, o, after, hentries, -, hroom, hbefore, hafter⟩ := makeRoom_of_full hnot hfull
  obtain ⟨-, -, hle, -⟩ := exists_append_rtake (lastWrites written) c.capacity
  have hlength := h.size_eq
  have hnodup := nodup_rtake written c.capacity
  have hkey : key ∉ ((lastWrites written).rtake c.capacity).map Prod.fst := by
    rw [← h.contains_iff, hnot]
    exact Bool.false_ne_true
  cases hr : (lastWrites written).rtake c.capacity with
  | nil =>
    have hpos := c.capacity_pos
    rw [hr, List.length_nil] at hlength
    omega
  | cons x r =>
    obtain rfl := h.eq_of_oldest hincreasing hentries hbefore hafter hr
    rw [hr] at hkey hlength hle hnodup
    rw [List.map_cons, List.nodup_cons] at hnodup
    rw [List.length_cons] at hlength hle
    have hn : c.capacity = r.length + 1 := by omega
    unfold Recent
    rw [capacity_insert, lastWrites_concat, hn, List.rtake_concat_succ,
      rtake_filter_of_full (hn ▸ hr) rfl hkey, RenderCache.insert, hroom]
    refine get?_insert_iff (fun hmem => hkey (List.mem_cons_of_mem _ hmem)) (fun k e' _ => ?_) e
    show (c.entries.erase o.1).get? k = some e' ↔ _
    rw [Table.get?_erase]
    by_cases hk : k = o.1
    · rw [if_pos hk]
      exact iff_of_false (by simp) fun hmem => hnodup.1 (hk ▸ List.mem_map_of_mem hmem)
    · rw [if_neg hk, h k e', hr, List.mem_cons]
      exact or_iff_right fun ho => hk (congrArg Prod.fst ho)

/-- A write keeps the cache to the last writes. -/
theorem Recent.insert (h : c.Recent written) (hincreasing : Increasing written) (key : String)
    (e : Stamped String) : (c.insert key e.value e.stamp).Recent (written ++ [(key, e)]) := by
  by_cases hkept : c.contains key = true ∨ c.size < c.capacity
  · exact h.insert_of_kept hkept e
  · rw [not_or, Bool.not_eq_true, Nat.not_lt] at hkept
    exact h.insert_of_full hincreasing hkept.1 hkept.2 e

/-! ### Runs -/

variable {zone : Zone} {commands : List RenderCommand}

/-- What the commands of a run write, in their order. -/
def writes (commands : List RenderCommand) (zone : Zone) : List (String × Stamped String) :=
  commands.filterMap (fun command => command.written? zone)

end RenderCache

/-- The time that a text is put for. -/
def Put.moment (p : Put) : Moment := p.time.getD p.now

theorem Put.stamp_of_written? {p : Put} {zone : Zone} {w : String × Stamped String}
    (hnow : p.now.offset = none) (h : p.written? zone = some w) :
    w.2.stamp = p.moment.shownIn zone := by
  unfold written? at h
  cases htime : p.time with
  | none =>
    rw [htime] at h
    cases h
    rw [moment, htime, Option.getD_none, Moment.shownIn, hnow]
  | some t =>
    cases hlocal : t.toLocal? zone with
    | none =>
      rw [htime, stampOr, stampOf, hlocal] at h
      cases h
    | some l =>
      rw [htime, stampOr, stampOf_of_isSome (by rw [hlocal]; rfl)] at h
      cases h
      rw [moment, htime, Option.getD_some]

/-- The text that a command puts. -/
def RenderCommand.put? : RenderCommand → Option Put
  | .put p => some p
  | _ => none

namespace RenderCache

/-- Texts are put for later and later times.  Their times are all written on the local clock, or on
other clocks; in that case the local clock is never set back. -/
structure TimesGrow (puts : List Put) (zone : Zone) : Prop where
  /-- The present is read off the local clock. -/
  now_local : ∀ p ∈ puts, p.now.offset = none
  grow : puts.Pairwise (fun p q => p.moment.Before q.moment)
  comparable : zone.Forward ∨ ∀ p ∈ puts, p.moment.offset = none

/-- What is put for later and later times is written with stamps that grow. -/
theorem TimesGrow.increasing (h : TimesGrow (commands.filterMap RenderCommand.put?) zone) :
    Increasing (writes commands zone) := by
  have hstamp : ∀ command ∈ commands, ∀ w, command.written? zone = some w →
      ∃ p, command.put? = some p ∧ p ∈ commands.filterMap RenderCommand.put? ∧
        w.2.stamp = p.moment.shownIn zone := by
    intro command hc w hw
    obtain ⟨p, rfl, hp⟩ := RenderCommand.written?_eq_some_iff.1 hw
    have hmem : p ∈ commands.filterMap RenderCommand.put? := List.mem_filterMap.2 ⟨_, hc, rfl⟩
    exact ⟨p, rfl, hmem, Put.stamp_of_written? (h.now_local p hmem) hp⟩
  have hgrow := List.pairwise_filterMap.1 h.grow
  refine List.pairwise_filterMap.2 (hgrow.imp_of_mem fun {a b} ha hb hab w hw w' hw' => ?_)
  obtain ⟨p, hp, hpmem, hpstamp⟩ := hstamp a ha w hw
  obtain ⟨q, hq, -, hqstamp⟩ := hstamp b hb w' hw'
  rw [hpstamp, hqstamp]
  exact Moment.shownIn_lt_of_before (hab p hp q hq)
    (h.comparable.imp_right fun hlocal => hlocal p hpmem)

end RenderCache

end SiteTemplates
