import SiteTemplates.Proofs.Cache.Eviction

/-!
# Runs of the render cache

What is done with the render cache, one command after the other.  A command that fails, as it does
for a time that the local clock cannot show (`put_eq_error_iff`), leaves the cache as it was.  The
zone of the local clock stands last and stays the same through a run.  Seen from a key, a command
writes an entry under it (`RenderCommand.written?`), drops it (`RenderCommand.Drops`), drives it out
(`RenderCache.Evicts`), or leaves it alone; `get?_of_step` and `get?_step_of` say that there is
nothing else.
-/

namespace SiteTemplates

/-- A text that is to be kept under a key. -/
structure Put where
  key : String
  value : String
  time : Option Moment
  now : Moment

/-- The entry that is made, unless the local clock cannot show the time. -/
def Put.written? (p : Put) (zone : Zone := .utc) : Option (String × Stamped String) :=
  match stampOr p.now p.time zone with
  | .ok stamp => some (p.key, ⟨p.value, stamp⟩)
  | .error _ => none

theorem Put.of_written? {p : Put} {zone : Zone} {key : String} {e : Stamped String}
    (h : p.written? zone = some (key, e)) : p.key = key ∧ p.value = e.value := by
  unfold written? at h
  split at h
  · cases h
    exact ⟨rfl, rfl⟩
  · cases h

/-- The local clock cannot show the time that is given. -/
def Put.Refused (p : Put) (zone : Zone := .utc) : Prop := ∃ t ∈ p.time, t.toLocal? zone = none

theorem Put.stampOr_eq_error_iff {p : Put} {zone : Zone} {f : Failure} :
    stampOr p.now p.time zone = .error f ↔ f = .outOfRange ∧ p.Refused zone := by
  unfold Refused
  cases p.time with
  | none => simp [stampOr]
  | some t => simp [stampOr, stampOf_eq_error_iff]

theorem Put.written?_eq_none_iff {p : Put} {zone : Zone} :
    p.written? zone = none ↔ p.Refused zone := by
  have hrefused := @stampOr_eq_error_iff p zone .outOfRange
  unfold written?
  cases hs : stampOr p.now p.time zone with
  | ok stamp =>
    rw [hs] at hrefused
    simpa using hrefused
  | error f =>
    obtain ⟨-, h⟩ := stampOr_eq_error_iff.1 hs
    simp [h]

/-- What is done with the render cache. -/
inductive RenderCommand where
  | put (p : Put)
  | get (key : String) (threshold : Option Moment)
  | contains (key : String)
  | isValid (key : String) (threshold : Moment)
  | invalidate (pattern : String)
  | remove (key : String)
  | clear

namespace RenderCommand

def written? (command : RenderCommand) (zone : Zone := .utc) : Option (String × Stamped String) :=
  match command with
  | .put p => p.written? zone
  | _ => none

theorem written?_eq_some_iff {command : RenderCommand} {zone : Zone} {w : String × Stamped String} :
    command.written? zone = some w ↔ ∃ p, command = .put p ∧ p.written? zone = some w := by
  cases command <;> simp [written?]

/-- The command is meant to remove the key. -/
def Drops (key : String) : RenderCommand → Prop
  | .invalidate pattern => RenderCache.keyMatches pattern key = true
  | .remove k => k = key
  | .clear => True
  | _ => False

end RenderCommand

namespace RenderCache

/-- What a command makes of the cache. -/
def step (c : RenderCache) (command : RenderCommand) (zone : Zone := .utc) : RenderCache :=
  match command with
  | .put p =>
    match c.put p.now p.key p.value p.time zone with
    | .ok c' => c'
    | .error _ => c
  | .get key threshold =>
    match c.get key threshold zone with
    | .ok (c', _) => c'
    | .error _ => c
  | .contains _ => c
  | .isValid _ _ => c
  | .invalidate pattern => c.invalidate pattern
  | .remove key => c.remove key
  | .clear => c.clear

/-- What commands make of the cache, one after the other. -/
def run (c : RenderCache) (commands : List RenderCommand) (zone : Zone := .utc) : RenderCache :=
  commands.foldl (fun c command => c.step command zone) c

theorem run_concat (c : RenderCache) (commands : List RenderCommand) (command : RenderCommand)
    (zone : Zone) :
    c.run (commands ++ [command]) zone = (c.run commands zone).step command zone := by
  rw [run, List.foldl_append]
  rfl

variable {c : RenderCache} {command : RenderCommand} {zone : Zone} {key : String}
  {e : Stamped String}

/-! ### What a command does -/

theorem step_put (c : RenderCache) (p : Put) (zone : Zone) : c.step (.put p) zone =
    match p.written? zone with
    | some e => c.insert e.1 e.2.value e.2.stamp
    | none => c := by
  simp only [step, put, Put.written?]
  cases stampOr p.now p.time zone <;> rfl

/-- A put fails exactly if the local clock cannot show its time. -/
theorem put_eq_error_iff {p : Put} {f : Failure} :
    c.put p.now p.key p.value p.time zone = .error f ↔ f = .outOfRange ∧ p.Refused zone := by
  rw [← Put.stampOr_eq_error_iff, put]
  cases stampOr p.now p.time zone with
  | ok stamp => simp [Except.map]
  | error f' => simp [Except.map]

theorem step_of_written {k : String} (h : command.written? zone = some (k, e)) :
    c.step command zone = c.insert k e.value e.stamp := by
  cases command with
  | put p =>
    have hp : p.written? zone = some (k, e) := h
    rw [step_put, hp]
  | _ => cases h

theorem entries_step_get (c : RenderCache) (key : String) (threshold : Option Moment)
    (zone : Zone) : (c.step (.get key threshold) zone).entries = c.entries := by
  simp only [step, get]
  cases c.peek key threshold zone with
  | error f => rfl
  | ok found => exact entries_count found

/-- Only a new entry can change the entries otherwise than by removing keys. -/
theorem get?_step_of_not_written (h : command.written? zone = none) :
    (command.Drops key ∧ (c.step command zone).entries.get? key = none) ∨
      (¬ command.Drops key ∧ (c.step command zone).entries.get? key = c.entries.get? key) := by
  cases command with
  | put p =>
    have hp : p.written? zone = none := h
    rw [step_put, hp]
    exact .inr ⟨id, rfl⟩
  | get k threshold =>
    rw [entries_step_get]
    exact .inr ⟨id, rfl⟩
  | contains k => exact .inr ⟨id, rfl⟩
  | isValid k threshold => exact .inr ⟨id, rfl⟩
  | invalidate pattern =>
    have hstep : (c.step (.invalidate pattern) zone).entries.get? key =
        if keyMatches pattern key then none else c.entries.get? key := get?_invalidate pattern
    by_cases hm : keyMatches pattern key = true
    · rw [if_pos hm] at hstep
      exact .inl ⟨hm, hstep⟩
    · rw [if_neg hm] at hstep
      exact .inr ⟨hm, hstep⟩
  | remove k =>
    have hstep : (c.step (.remove k) zone).entries.get? key =
        if key = k then none else c.entries.get? key := Table.get?_erase _ _ _
    by_cases hk : k = key
    · rw [if_pos hk.symm] at hstep
      exact .inl ⟨hk, hstep⟩
    · rw [if_neg (Ne.symm hk)] at hstep
      exact .inr ⟨hk, hstep⟩
  | clear => exact .inl ⟨trivial, rfl⟩

/-- The command writes a new key into a full cache, the key is that of the oldest entry, and the
entries under all other keys stay as they are. -/
def Evicts (c : RenderCache) (command : RenderCommand) (key : String) (zone : Zone := .utc) :
    Prop :=
  ∃ k e, command.written? zone = some (k, e) ∧ c.contains k = false ∧ c.size = c.capacity ∧
    oldest? c.entries.entries = some key ∧
    ∀ k', k' ≠ key → k' ≠ k → (c.step command zone).entries.get? k' = c.entries.get? k'

/-- What is under a key after a command was written by it, or was there before and is not dropped by
it. -/
theorem get?_of_step (h : (c.step command zone).entries.get? key = some e) :
    command.written? zone = some (key, e) ∨ (c.entries.get? key = some e ∧ ¬ command.Drops key ∧
      ∀ e', command.written? zone ≠ some (key, e')) := by
  cases hc : command.written? zone with
  | none =>
    rcases @get?_step_of_not_written c command zone key hc with ⟨-, hnone⟩ | ⟨hd, hsame⟩
    · rw [hnone] at h
      cases h
    · exact .inr ⟨hsame.symm.trans h, hd, nofun⟩
  | some w =>
    obtain ⟨k, e'⟩ := w
    rw [step_of_written hc, insert, Table.get?_insert] at h
    have hd : ¬ command.Drops key := by
      cases command with
      | put p => exact id
      | _ => cases hc
    by_cases hk : key = k
    · rw [if_pos hk] at h
      exact .inl (by rw [← Option.some.inj h, hk])
    · rw [if_neg hk] at h
      refine .inr ⟨get?_of_makeRoom h, hd, fun e'' he => hk ?_⟩
      exact (Prod.ext_iff.1 (Option.some.inj he)).1.symm

/-- What is under a key stays there, unless the command writes under the key, drops it or drives it
out. -/
theorem get?_step_of (hsize : c.size ≤ c.capacity) (h : c.entries.get? key = some e) :
    (c.step command zone).entries.get? key = some e ∨
      (∃ e', command.written? zone = some (key, e')) ∨ command.Drops key ∨
        c.Evicts command key zone := by
  cases hc : command.written? zone with
  | none =>
    rcases @get?_step_of_not_written c command zone key hc with ⟨hd, -⟩ | ⟨-, hsame⟩
    · exact .inr (.inr (.inl hd))
    · exact .inl (hsame.trans h)
  | some w =>
    obtain ⟨k, e'⟩ := w
    by_cases hk : key = k
    · exact .inr (.inl ⟨e', by rw [hk]⟩)
    have hinsert : ∀ k', k' ≠ k →
        (c.step command zone).entries.get? k' = (c.makeRoom k).entries.get? k' := by
      intro k' hk'
      rw [step_of_written hc, insert, Table.get?_insert, if_neg hk']
    cases hcontains : c.contains k with
    | true =>
      left
      rw [hinsert key hk, makeRoom_of_contains hcontains, h]
    | false =>
      rcases Nat.lt_or_ge c.size c.capacity with hroom | hfull
      · left
        rw [hinsert key hk, makeRoom_of_room hroom, h]
      obtain ⟨before, o, after, -, holdest, hroom, -, -⟩ := makeRoom_of_full hcontains hfull
      have herase : ∀ k', k' ≠ k →
          (c.step command zone).entries.get? k' =
            if k' = o.1 then none else c.entries.get? k' := by
        intro k' hk'
        rw [hinsert k' hk', hroom]
        exact Table.get?_erase _ _ _
      by_cases hko : key = o.1
      · have hothers : ∀ k', k' ≠ key → k' ≠ k →
            (c.step command zone).entries.get? k' = c.entries.get? k' := by
          intro k' hne hk'
          rw [herase k' hk', if_neg (hko ▸ hne)]
        exact .inr (.inr (.inr ⟨k, e', hc, hcontains, Nat.le_antisymm hsize hfull,
          hko ▸ holdest, hothers⟩))
      · left
        rw [herase key hk, if_neg hko, h]

/-! ### The number of entries -/

theorem size_step_le (h : c.size ≤ c.capacity) (command : RenderCommand) (zone : Zone) :
    (c.step command zone).size ≤ c.capacity := by
  have hfilter : ∀ keep : String → Stamped String → Bool,
      (c.entries.filter keep).size ≤ c.capacity :=
    fun keep => Nat.le_trans (List.length_filter_le _ _) h
  cases command with
  | put p =>
    rw [step_put]
    split
    · exact size_insert_le h _ _
    · exact h
  | get key threshold =>
    rw [size, entries_step_get]
    exact h
  | contains key => exact h
  | isValid key threshold => exact h
  | invalidate pattern => exact hfilter _
  | remove key => exact hfilter _
  | clear => exact Nat.zero_le _

theorem capacity_step (c : RenderCache) (command : RenderCommand) (zone : Zone) :
    (c.step command zone).capacity = c.capacity := by
  cases command with
  | put p =>
    rw [step_put]
    split
    · exact capacity_insert _ _
    · rfl
  | get key threshold =>
    simp only [step, get]
    cases c.peek key threshold zone with
    | error f => rfl
    | ok found => cases found <;> rfl
  | _ => rfl

theorem capacity_run (c : RenderCache) (commands : List RenderCommand) (zone : Zone) :
    (c.run commands zone).capacity = c.capacity := by
  induction commands generalizing c with
  | nil => rfl
  | cons command commands ih =>
    exact (ih (c.step command zone)).trans (capacity_step c command zone)

/-- In a run there are never more texts than there is room for. -/
theorem size_run_le (h : c.size ≤ c.capacity) (commands : List RenderCommand) (zone : Zone) :
    (c.run commands zone).size ≤ c.capacity := by
  induction commands generalizing c with
  | nil => exact h
  | cons command commands ih =>
    rw [← capacity_step c command zone]
    refine ih ?_
    rw [capacity_step]
    exact size_step_le h command zone

end RenderCache

end SiteTemplates
