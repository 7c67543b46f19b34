import Mathlib.Data.List.Induction
import SiteTemplates.Proofs.Cache.Incremental
import SiteTemplates.Proofs.Cache.RenderRun

/-!
# Where a text of the render cache comes from

A text that is found was put under its key by the last put of that key that was not refused, and
nothing that came after was meant to remove it (`exists_put_of_get`).  Conversely a key goes away
only by a command that is meant to remove it, or when the cache is full and a put of a new key
drives it out, it alone (`drops_or_evicts`).  So no text is stale and none is lost without a cause
(`reliable_run`).  All this holds in any zone.
-/

namespace SiteTemplates.RenderCache

/-- The entry under a key is what a command of the run wrote, and no later command wrote under that
key or was meant to remove it. -/
def ComesFrom (commands : List RenderCommand) (zone : Zone) (key : String) (e : Stamped String) :
    Prop :=
  ∃ before command after, commands = before ++ command :: after ∧
    command.written? zone = some (key, e) ∧
    ∀ later ∈ after, ¬ later.Drops key ∧ ∀ e', later.written? zone ≠ some (key, e')

variable {c : RenderCache} {commands : List RenderCommand} {command : RenderCommand} {zone : Zone}
  {key : String} {e : Stamped String}

theorem comesFrom_concat_self (h : command.written? zone = some (key, e)) :
    ComesFrom (commands ++ [command]) zone key e :=
  ⟨commands, command, [], rfl, h, by simp⟩

theorem ComesFrom.concat (h : ComesFrom commands zone key e) (hd : ¬ command.Drops key)
    (hw : ∀ e', command.written? zone ≠ some (key, e')) :
    ComesFrom (commands ++ [command]) zone key e := by
  obtain ⟨before, writer, after, rfl, hwriter, hafter⟩ := h
  refine ⟨before, writer, after ++ [command], by simp, hwriter, fun later hlater => ?_⟩
  rcases List.mem_append.1 hlater with h | h
  · exact hafter later h
  · rw [List.mem_singleton.1 h]
    exact ⟨hd, hw⟩

/-- **What a run leaves under a key** is what the last put of that key wrote. -/
theorem comesFrom_of_get?_run (hempty : ∀ k, c.entries.get? k = none)
    (h : (c.run commands zone).entries.get? key = some e) : ComesFrom commands zone key e := by
  induction commands using List.reverseRecOn with
  | nil =>
    have hnone := hempty key
    rw [show c.run [] zone = c from rfl, hnone] at h
    cases h
  | append_singleton commands command ih =>
    rw [run_concat] at h
    rcases get?_of_step h with hw | ⟨hbefore, hd, hw⟩
    · exact comesFrom_concat_self hw
    · exact (ih hbefore).concat hd hw

/-! ### Lookups -/

theorem exists_of_get {threshold : Option Moment} {c' : RenderCache} {value : String}
    (h : c.get key threshold zone = .ok (c', some value)) :
    ∃ e, c.entries.get? key = some e ∧ e.value = value := by
  unfold get at h
  cases hp : c.peek key threshold zone with
  | error f =>
    rw [hp] at h
    cases h
  | ok found =>
    rw [hp] at h
    cases h
    exact Stamped.exists_of_current_some hp

/-- A lookup finds a text exactly if the text is valid. -/
theorem exists_get_iff (c : RenderCache) (zone : Zone) (key : String) (threshold : Moment) :
    (∃ c' value, c.get key (some threshold) zone = .ok (c', some value)) ↔
      c.isValid key threshold zone = .ok true := by
  have hvalid : c.isValid key threshold zone =
      (c.peek key (some threshold) zone).map Option.isSome := rfl
  rw [get, hvalid]
  cases c.peek key (some threshold) zone with
  | error f => simp [Except.map]
  | ok found => cases found <;> simp [Except.map]

/-- A full cache has an entry to drive out. -/
theorem exists_victim (h : c.capacity ≤ c.size) :
    ∃ victim, oldest? c.entries.entries = some victim ∧ c.contains victim = true := by
  obtain ⟨before, e, after, hsplit, holdest, -, -⟩ := exists_oldest (entries_ne_nil_of_full h)
  refine ⟨e.1, holdest, ?_⟩
  have hmem : (e.1, e.2) ∈ c.entries.entries := by
    rw [hsplit]
    simp
  rw [contains, Table.contains, Table.mem_entries_iff.1 hmem]
  rfl

/-- A key that is gone after a command was dropped or driven out by it. -/
theorem drops_or_evicts (hsize : c.size ≤ c.capacity) (h : c.contains key = true)
    (hgone : (c.step command zone).contains key = false) :
    command.Drops key ∨ c.Evicts command key zone := by
  obtain ⟨e, he⟩ := Option.isSome_iff_exists.1 h
  have hnone : (c.step command zone).entries.get? key = none :=
    Option.isNone_iff_eq_none.1 (Option.isSome_eq_false_iff.1 hgone)
  rcases get?_step_of hsize he with hsame | ⟨e', hw⟩ | hcause
  · rw [hnone] at hsame
    cases hsame
  · rw [step_of_written hw, get?_insert_self] at hnone
    cases hnone
  · exact hcause

/-! ### Runs -/

/-- What can be relied on after the commands of a run. -/
structure Reliable (commands : List RenderCommand) (zone : Zone) (c : RenderCache) : Prop where
  /-- There are never more texts than there is room for. -/
  size_le : c.size ≤ c.capacity
  /-- A full cache has an entry to drive out. -/
  victim : c.size = c.capacity →
    ∃ victim, oldest? c.entries.entries = some victim ∧ c.contains victim = true
  /-- A text that is found is that of the last put of its key that was not refused, and nothing that
  came later was meant to remove the key. -/
  last_put : ∀ key threshold c' value, c.get key threshold zone = .ok (c', some value) →
    ∃ before p after, commands = before ++ .put p :: after ∧
      (p.key = key ∧ p.value = value ∧ ¬ p.Refused zone) ∧
      ∀ later ∈ after, ¬ later.Drops key ∧ ∀ q, later = .put q → q.key = key → q.Refused zone
  /-- A put fails if and only if the local clock cannot show its time, and changes nothing then. -/
  failed_iff : ∀ p, .put p ∈ commands → ∀ (c' : RenderCache) f,
    (c'.put p.now p.key p.value p.time zone = .error f ↔ f = .outOfRange ∧ p.Refused zone) ∧
      (p.Refused zone → c'.step (.put p) zone = c')
  /-- A text is found for a threshold exactly if it is valid for it. -/
  found_iff : ∀ key threshold,
    (∃ c' value, c.get key (some threshold) zone = .ok (c', some value)) ↔
      c.isValid key threshold zone = .ok true
  /-- A key goes away only by a command that is meant to remove it, or as the only one that a put
  of a new key drives out of a full cache. -/
  gone : ∀ command key, c.contains key = true → (c.step command zone).contains key = false →
    command.Drops key ∨ c.Evicts command key zone

/-- A text that is found was put by the last put of its key that was not refused. -/
theorem exists_put_of_get (hempty : ∀ k, c.entries.get? k = none) {threshold : Option Moment}
    {c' : RenderCache} {value : String}
    (h : (c.run commands zone).get key threshold zone = .ok (c', some value)) :
    ∃ before p after, commands = before ++ .put p :: after ∧
      (p.key = key ∧ p.value = value ∧ ¬ p.Refused zone) ∧
      ∀ later ∈ after, ¬ later.Drops key ∧ ∀ q, later = .put q → q.key = key → q.Refused zone := by
  obtain ⟨e, he, rfl⟩ := exists_of_get h
  obtain ⟨before, command, after, rfl, hw, hafter⟩ := comesFrom_of_get?_run hempty he
  obtain ⟨p, rfl, hp⟩ := RenderCommand.written?_eq_some_iff.1 hw
  refine ⟨before, p, after, rfl, ?_, fun later hlater => ⟨(hafter later hlater).1, ?_⟩⟩
  · obtain ⟨hkey, hvalue⟩ := Put.of_written? hp
    refine ⟨hkey, hvalue, fun hrefused => ?_⟩
    rw [Put.written?_eq_none_iff.2 hrefused] at hp
    cases hp
  · rintro q rfl rfl
    have hnot := (hafter (.put q) hlater).2
    refine Put.written?_eq_none_iff.1 (Option.eq_none_iff_forall_ne_some.2 fun w hq => ?_)
    have hkey : q.key = w.1 := (Put.of_written? (e := w.2) hq).1
    refine hnot w.2 ?_
    rw [hkey]
    exact hq

/-- A put that is refused leaves the cache as it is. -/
theorem step_of_refused {p : Put} (h : p.Refused zone) (c : RenderCache) :
    c.step (.put p) zone = c := by
  rw [step_put, Put.written?_eq_none_iff.2 h]

/-- **The render cache keeps what was put.**  In every run from an empty cache, of any capacity that
leaves room for one text, no text is stale and none is lost without a cause, but for puts that are
refused. -/
theorem reliable_run {capacity : Int} (h : 1 ≤ capacity) (commands : List RenderCommand)
    (zone : Zone) :
    ∃ empty, ofCapacity capacity = .ok empty ∧ (∀ key, empty.contains key = false) ∧
      ((empty.run commands zone).capacity : Int) = capacity ∧
      Reliable commands zone (empty.run commands zone) := by
  obtain ⟨empty, hempty, hcapacity, hentries, hnone⟩ := exists_ofCapacity h
  have hbefore : empty.size ≤ empty.capacity := by
    rw [size, hentries]
    exact Nat.zero_le _
  have hsize : (empty.run commands zone).size ≤ (empty.run commands zone).capacity := by
    rw [capacity_run]
    exact size_run_le hbefore commands zone
  refine ⟨empty, hempty, hnone, by rw [capacity_run, hcapacity], ?_⟩
  exact {
    size_le := hsize
    victim := fun hfull => exists_victim (Nat.le_of_eq hfull.symm)
    last_put := fun key threshold c' value hget => exists_put_of_get (by simp [hentries]) hget
    failed_iff := fun p _ c' f => ⟨put_eq_error_iff, fun hrefused => step_of_refused hrefused c'⟩
    found_iff := exists_get_iff _ zone
    gone := fun command key hin hgone => drops_or_evicts hsize hin hgone }

/-- In a cache with room for one text a second key drives out the first one. -/
def twoPuts : List RenderCommand :=
  [.put ⟨"k", "one", none, .ofDate ⟨2024, 2, 29, by decide⟩⟩,
    .put ⟨"l", "two", none, .ofDate ⟨2024, 2, 29, by decide⟩⟩, .get "l" none]

theorem reliable_run_twoPuts :
    (1 : Int) ≤ 1 ∧ ∃ empty, ofCapacity 1 = .ok empty ∧ (∀ key, empty.contains key = false) ∧
      ((empty.run twoPuts).capacity : Int) = 1 ∧ Reliable twoPuts .utc (empty.run twoPuts) :=
  ⟨by decide, reliable_run (by decide) twoPuts .utc⟩

/-- A text that is put for a time before the calendar, where there was another one before. -/
def refusedPuts : List Put :=
  [⟨"k", "old", none, AllowedRun.newYear⟩,
    ⟨"k", "new", some AllowedRun.beforeCalendar, AllowedRun.newYear⟩]

/-- A lookup gives the text of a put that is not the last one, as that one is refused. -/
theorem get_refusedPuts :
    ∃ empty, ofCapacity 1 = .ok empty ∧
      refusedPuts.getLast?.map (fun p => (p.key, p.value)) = some ("k", "new") ∧
      ((empty.run (refusedPuts.map .put)).get "k" none).map Prod.snd = .ok (some "old") :=
  ⟨⟨1, Table.empty, 0, 0, by decide⟩, rfl, by decide, by rfl⟩

end SiteTemplates.RenderCache
