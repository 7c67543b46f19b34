import Mathlib.Data.List.Induction
import Mathlib.Data.Prod.Lex
import SiteTemplates.Proofs.Cache.Incremental
import SiteTemplates.Proofs.Cache.RenderRun

/-!
# What the render cache retains

Texts are put under keys that are all different, with times in any order.  A text that is put drives
out the oldest one that is there, whatever its own time is.  Nevertheless the cache does not depend
on the order of events beyond that: it holds the text that was put last, and of the others those
that are latest in the order of time and, among equal times, of place in the sequence
(`holdsLatest_run`).

`Latest` is the choice of those texts, each with its place.  One put extends the choice by the text
before it, and takes the oldest one out of it if it has become too large (`Latest.extend`,
`Latest.exchange`); what was left out before is older than the one that is taken out, so it is older
than all that remain.

A put whose time the local clock cannot show fails and has no part in this.
-/

namespace SiteTemplates.RenderCache

/-- An entry with its place in the sequence, in the order of time and place. -/
def rank (x : (String × Stamped String) × Nat) : Int ×ₗ Nat := toLex (x.1.2.stamp, x.2)

theorem rank_lt_iff {x y : (String × Stamped String) × Nat} :
    rank x < rank y ↔ x.1.2.stamp < y.1.2.stamp ∨ x.1.2.stamp = y.1.2.stamp ∧ x.2 < y.2 :=
  Prod.Lex.toLex_lt_toLex

/-- Some entries of a sequence with their places, in its order, all of them later than the
others. -/
structure Latest (es : List (String × Stamped String))
    (kept : List ((String × Stamped String) × Nat)) : Prop where
  /-- They are entries of the sequence. -/
  sublist : kept.Sublist es.zipIdx
  /-- An entry that is left out is before each of them in the order of time and place. -/
  rank_lt : ∀ x ∈ kept, ∀ y ∈ es.zipIdx, y ∉ kept → rank y < rank x

namespace Latest

variable {es : List (String × Stamped String)} {kept : List ((String × Stamped String) × Nat)}
  {last : String × Stamped String}

theorem all (es : List (String × Stamped String)) : Latest es es.zipIdx :=
  ⟨List.Sublist.refl _, fun _ _ _ hy hny => absurd hy hny⟩

theorem zipIdx_concat (es : List (String × Stamped String)) (last : String × Stamped String) :
    (es ++ [last]).zipIdx = es.zipIdx ++ [(last, es.length)] := by
  rw [List.zipIdx_append]
  simp

/-- If all entries are chosen, one more can be. -/
theorem extend (h : Latest es kept) (hall : es.length ≤ kept.length) :
    Latest (es ++ [last]) (kept ++ [(last, es.length)]) := by
  have hkept : kept = es.zipIdx := h.sublist.eq_of_length_le (by simpa using hall)
  rw [hkept, ← zipIdx_concat]
  exact all _

/-- Places grow along a choice. -/
theorem place_lt (h : Latest es kept) {before after : List ((String × Stamped String) × Nat)}
    {x : (String × Stamped String) × Nat}
    (hsplit : kept ++ [(last, es.length)] = before ++ x :: after) :
    ∀ z ∈ after, x.2 < z.2 := by
  have hsub : (kept ++ [(last, es.length)]).Sublist (es ++ [last]).zipIdx := by
    rw [zipIdx_concat]
    exact h.sublist.append (List.Sublist.refl _)
  have hplaces : ((es ++ [last]).zipIdx.map Prod.snd).Pairwise (· < ·) := by
    rw [List.zipIdx_map_snd]
    exact List.pairwise_lt_range'
  have hpairwise := hplaces.sublist (hsub.map Prod.snd)
  rw [hsplit, List.map_append, List.map_cons, List.pairwise_append, List.pairwise_cons]
    at hpairwise
  exact fun z hz => hpairwise.2.1.1 z.2 (List.mem_map_of_mem hz)

/-- The first one of the oldest of all that are chosen is before the others. -/
theorem rank_lt_of_oldest (h : Latest es kept)
    {before after : List ((String × Stamped String) × Nat)} {x : (String × Stamped String) × Nat}
    (hsplit : kept ++ [(last, es.length)] = before ++ x :: after)
    (hbefore : ∀ z ∈ before, x.1.2.stamp < z.1.2.stamp)
    (hafter : ∀ z ∈ after, x.1.2.stamp ≤ z.1.2.stamp) :
    ∀ z ∈ before ++ after, rank x < rank z := by
  intro z hz
  rw [rank_lt_iff]
  rcases List.mem_append.1 hz with hz | hz
  · exact .inl (hbefore z hz)
  · rcases Int.lt_or_eq_of_le (hafter z hz) with hlt | heq
    · exact .inl hlt
    · exact .inr ⟨heq, h.place_lt hsplit z hz⟩

/-- **Exchange.**  When one more entry is chosen and the oldest one given up, those that are left
out are still before all that are chosen. -/
theorem exchange (h : Latest es kept) {before after : List ((String × Stamped String) × Nat)}
    {x : (String × Stamped String) × Nat}
    (hsplit : kept ++ [(last, es.length)] = before ++ x :: after)
    (hbefore : ∀ z ∈ before, x.1.2.stamp < z.1.2.stamp)
    (hafter : ∀ z ∈ after, x.1.2.stamp ≤ z.1.2.stamp) :
    Latest (es ++ [last]) (before ++ after) := by
  have holdest := h.rank_lt_of_oldest hsplit hbefore hafter
  have hmem : ∀ z, z ∈ kept ++ [(last, es.length)] ↔ z = x ∨ z ∈ before ++ after := by
    intro z
    rw [hsplit]
    simp only [List.mem_append, List.mem_cons]
    tauto
  refine ⟨?_, fun z hz y hy hny => ?_⟩
  · have hsub : (before ++ after).Sublist (before ++ x :: after) :=
      (List.Sublist.refl before).append (List.sublist_cons_self x after)
    rw [zipIdx_concat]
    exact (hsplit ▸ hsub).trans (h.sublist.append (List.Sublist.refl _))
  by_cases hyx : y = x
  · rw [hyx]
    exact holdest z hz
  -- otherwise `y` was left out before, so it is before all that were chosen then
  have hyout : y ∉ kept ++ [(last, es.length)] := fun hin => ((hmem y).1 hin).elim hyx hny
  rw [List.mem_append, not_or] at hyout
  have hyes : y ∈ es.zipIdx := by
    rw [zipIdx_concat, List.mem_append] at hy
    exact hy.resolve_right hyout.2
  have hkept : ∀ w ∈ kept, rank y < rank w := fun w hw => h.rank_lt w hw y hyes hyout.1
  rcases List.mem_append.1 ((hmem z).2 (.inr hz)) with hzk | hzl
  · exact hkept z hzk
  · -- `z` is the last entry, so the one that is given up was chosen before
    have hxz : x ≠ z := fun hxz => lt_irrefl _ (hxz ▸ holdest z hz)
    have hxk : x ∈ kept := by
      rcases List.mem_append.1 ((hmem x).2 (.inl rfl)) with hxk | hxl
      · exact hxk
      · exact absurd ((List.mem_singleton.1 hxl).trans (List.mem_singleton.1 hzl).symm) hxz
    exact (hkept x hxk).trans (holdest z hz)

end Latest

/-! ### A sequence of puts -/

/-- The cache holds the entry that was written last, and of the earlier ones the latest, as many as
there is room for. -/
def Retains (c : RenderCache) (written : List (String × Stamped String)) : Prop :=
  (written = [] ∧ c.entries.entries = []) ∨
    ∃ earlier last kept, written = earlier ++ [last] ∧ Latest earlier kept ∧
      kept.length = min (c.capacity - 1) earlier.length ∧
      c.entries.entries = kept.map Prod.fst ++ [last]

variable {c : RenderCache} {written : List (String × Stamped String)}

theorem Retains.mem_written (h : c.Retains written) {e : String × Stamped String}
    (he : e ∈ c.entries.entries) : e ∈ written := by
  rcases h with ⟨-, hnil⟩ | ⟨earlier, last, kept, rfl, hlatest, -, hentries⟩
  · rw [hnil] at he
    cases he
  · rw [hentries, List.mem_append] at he
    refine List.mem_append.2 (he.imp_left fun hk => ?_)
    have hsub : (kept.map Prod.fst).Sublist (earlier.zipIdx.map Prod.fst) := hlatest.sublist.map _
    rw [List.zipIdx_map_fst] at hsub
    exact hsub.subset hk

/-- A put of a new key keeps the cache to the latest entries. -/
theorem Retains.insert (h : c.Retains written) {key : String} (hk : c.contains key = false)
    (value : String) (stamp : Int) :
    (c.insert key value stamp).Retains (written ++ [(key, ⟨value, stamp⟩)]) := by
  refine .inr ?_
  have hpos := c.capacity_pos
  rcases h with ⟨rfl, hnil⟩ | ⟨earlier, last, kept, rfl, hlatest, hlength, hentries⟩
  · have hroom : c.size < c.capacity := by
      rw [size, Table.size, hnil]
      exact hpos
    refine ⟨[], _, [], rfl, Latest.all [], by simp, ?_⟩
    rw [entries_insert_of_room hk hroom, hnil]
    rfl
  · have hsize : c.size = kept.length + 1 := by
      rw [size, Table.size, hentries]
      simp
    have hmap : kept.map Prod.fst ++ [last] = (kept ++ [(last, earlier.length)]).map Prod.fst := by
      simp
    rcases Nat.lt_or_ge c.size c.capacity with hroom | hfull
    · -- there is room, so nothing was left out before
      have hall : earlier.length ≤ kept.length := by omega
      refine ⟨earlier ++ [last], _, _, rfl, hlatest.extend hall, ?_, ?_⟩
      · rw [capacity_insert]
        simp only [List.length_append, List.length_singleton]
        omega
      · rw [entries_insert_of_room hk hroom, hentries, hmap]
    · obtain ⟨before, e, after, hsplit, -, hinsert, hbefore, hafter⟩ :=
        entries_insert_of_full hk hfull value stamp
      rw [hentries, hmap] at hsplit
      obtain ⟨before, rest, hkept, rfl, hrest⟩ := List.map_eq_append_iff.1 hsplit
      obtain ⟨x, after, rfl, rfl, rfl⟩ := List.map_eq_cons_iff.1 hrest
      have hx : ∀ zs : List ((String × Stamped String) × Nat),
          ∀ z ∈ zs, z.1 ∈ zs.map Prod.fst := fun zs z hz => List.mem_map_of_mem hz
      have hlatest' := hlatest.exchange hkept
        (fun z hz => hbefore z.1 (hx before z hz)) (fun z hz => hafter z.1 (hx after z hz))
      refine ⟨earlier ++ [last], _, before ++ after, rfl, hlatest', ?_, ?_⟩
      · have hkeptLength := congrArg List.length hkept
        rw [capacity_insert]
        simp only [List.length_append, List.length_cons, List.length_nil] at hkeptLength ⊢
        omega
      · rw [hinsert, List.map_append]

/-- Puts of different keys keep the cache to the latest entries. -/
theorem retains_run (hempty : c.entries.entries = []) {puts : List Put}
    (hd : (puts.map Put.key).Nodup) :
    (c.run (puts.map .put)).Retains (puts.filterMap Put.written?) := by
  induction puts using List.reverseRecOn with
  | nil => exact .inl ⟨rfl, hempty⟩
  | append_singleton puts p ih =>
    rw [List.map_append, List.map_singleton, List.nodup_append] at hd
    obtain ⟨hputs, -, hnew⟩ := hd
    have ih := ih hputs
    rw [List.map_append, List.map_singleton, run_concat, step_put, List.filterMap_append,
      List.filterMap_cons, List.filterMap_nil]
    cases hp : p.written? with
    | none =>
      rw [List.append_nil]
      exact ih
    | some e =>
      have hkey : p.key = e.1 := (Put.of_written? (e := e.2) hp).1
      refine ih.insert ?_ e.2.value e.2.stamp
      -- an entry that is there comes from an earlier put, and its key is another one
      refine Table.contains_eq_false_iff.2 fun hin => ?_
      obtain ⟨w, hw, hwkey⟩ := List.mem_map.1 hin
      obtain ⟨q, hq, hqw⟩ := List.mem_filterMap.1 (ih.mem_written hw)
      have hqkey : q.key = w.1 := (Put.of_written? (e := w.2) hqw).1
      exact hnew q.key (List.mem_map_of_mem hq) p.key (by simp) (by rw [hqkey, hwkey, hkey])

/-! ### What is held in the end -/

/-- A put has no part in what is held if its time cannot be shown on the local clock, and in no
other case. -/
theorem written?_eq_none_iff {p : Put} :
    p.written? = none ↔ p.time.any (fun t => t.toLocal?.isNone) = true := by
  rw [Put.written?_eq_none_iff, Put.Refused]
  cases p.time with
  | none => simp
  | some t => simp

theorem put_of_written?_eq_none {p : Put} (h : p.written? = none) (c : RenderCache) :
    c.put p.now p.key p.value p.time = .error .outOfRange :=
  put_eq_error_iff.2 ⟨rfl, Put.written?_eq_none_iff.1 h⟩

/-- What the cache holds after a sequence of puts, with room for so many texts. -/
structure HoldsLatest (capacity : Int) (puts : List Put) (c : RenderCache) : Prop where
  /-- If there is room for all texts, it holds all of them, each under its key. -/
  all_of_le : ((puts.filterMap Put.written?).length : Int) ≤ capacity →
    ∀ key e, c.entries.get? key = some e ↔ (key, e) ∈ puts.filterMap Put.written?
  /-- If there is not, it holds the last one, and of the earlier ones those that are latest in the
  order of time and place, as many as there is room for besides. -/
  latest_of_lt : capacity < (puts.filterMap Put.written?).length →
    ∃ earlier last kept, puts.filterMap Put.written? = earlier ++ [last] ∧ Latest earlier kept ∧
      (kept.length : Int) = capacity - 1 ∧
      ∀ key e, c.entries.get? key = some e ↔ (key, e) ∈ kept.map Prod.fst ++ [last]
  /-- The puts that are left out fail because the local clock cannot show their time. -/
  failed : ∀ p ∈ puts,
    (p.written? = none ↔ p.time.any (fun t => t.toLocal?.isNone) = true) ∧
      (p.written? = none → ∀ c' : RenderCache,
        c'.put p.now p.key p.value p.time = .error .outOfRange)

theorem Retains.holdsLatest {puts : List Put} (h : c.Retains (puts.filterMap Put.written?)) :
    HoldsLatest c.capacity puts c := by
  have hget : ∀ key e, c.entries.get? key = some e ↔ (key, e) ∈ c.entries.entries :=
    fun key e => Table.mem_entries_iff.symm
  have hfailed : ∀ p ∈ puts, _ := fun p (_ : p ∈ puts) =>
    And.intro (@written?_eq_none_iff p) (@put_of_written?_eq_none p)
  have hpos := c.capacity_pos
  rcases h with ⟨hnil, hentries⟩ | ⟨earlier, last, kept, hwritten, hlatest, hlength, hentries⟩
  · refine ⟨fun _ key e => ?_, fun hlt => ?_, hfailed⟩
    · rw [hget, hentries, hnil]
    · rw [hnil, List.length_nil] at hlt
      omega
  · rw [hentries] at hget
    refine ⟨fun hle => ?_, fun hlt => ?_, hfailed⟩
    · rw [hwritten, List.length_append, List.length_singleton] at hle
      have hall : kept = earlier.zipIdx :=
        hlatest.sublist.eq_of_length_le (by rw [List.length_zipIdx]; omega)
      rw [hwritten]
      rwa [hall, List.zipIdx_map_fst] at hget
    · rw [hwritten, List.length_append, List.length_singleton] at hlt
      exact ⟨earlier, last, kept, hwritten, hlatest, by omega, hget⟩

/-- **What the render cache retains** of a sequence of puts of different keys, with times in any
order: of those that do not fail, all if there is room for them, and otherwise the last one and of
the earlier ones those that are latest in the order of time and place. -/
theorem holdsLatest_run {capacity : Int} (h : 1 ≤ capacity) {puts : List Put}
    (hd : (puts.map Put.key).Nodup) :
    ∃ empty, ofCapacity capacity = .ok empty ∧ (∀ key, empty.contains key = false) ∧
      HoldsLatest capacity puts (empty.run (puts.map .put)) := by
  obtain ⟨empty, hempty, hcapacity, hentries, hnone⟩ := exists_ofCapacity h
  have hretains : (empty.run (puts.map .put)).Retains (puts.filterMap Put.written?) :=
    retains_run (by rw [hentries]; rfl) hd
  have hroom : ((empty.run (puts.map .put)).capacity : Int) = capacity := by
    rw [capacity_run, hcapacity]
  exact ⟨empty, hempty, hnone, hroom ▸ hretains.holdsLatest⟩

def januaryPut (key : String) (day : Nat) (h : IsDate 2024 1 day) : Put :=
  ⟨key, key, some (.ofDate ⟨2024, 1, day, h⟩), AllowedRun.newYear⟩

def threePuts : List Put :=
  [januaryPut "a" 4 (by decide), januaryPut "b" 2 (by decide), januaryPut "c" 3 (by decide)]

theorem holdsLatest_run_threePuts :
    (1 : Int) ≤ 2 ∧ (threePuts.map Put.key).Nodup ∧
      ∃ empty, ofCapacity 2 = .ok empty ∧ (∀ key, empty.contains key = false) ∧
        HoldsLatest 2 threePuts (empty.run (threePuts.map .put)) :=
  have hd : (threePuts.map Put.key).Nodup := by decide
  ⟨by decide, hd, holdsLatest_run (by decide) hd⟩

def lostPut : Put := ⟨"k", "v", some AllowedRun.beforeCalendar, AllowedRun.newYear⟩

/-- A text for a time that the local clock cannot show is not held, though there is room for it. -/
theorem not_contains_lostPut :
    ∃ empty, ofCapacity 1 = .ok empty ∧ ([lostPut].map Put.key).Nodup ∧ [lostPut].length ≤ 1 ∧
      empty.put lostPut.now lostPut.key lostPut.value lostPut.time = .error .outOfRange ∧
      (empty.run [.put lostPut]).contains "k" = false := by
  have hlost : lostPut.written? = none := written?_eq_none_iff.2 (by decide)
  refine ⟨⟨1, Table.empty, 0, 0, by decide⟩, rfl, by decide, by decide,
    put_of_written?_eq_none hlost _, ?_⟩
  show (step _ (.put lostPut)).contains "k" = false
  rw [step_put, hlost]
  rfl

end SiteTemplates.RenderCache
