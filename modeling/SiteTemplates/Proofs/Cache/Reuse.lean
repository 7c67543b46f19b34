import SiteTemplates.Proofs.Cache.Eviction
import SiteTemplates.Proofs.Cache.Incremental

/-!
# What a cached rendering does to the caches

A text that is kept and not older than the threshold is used again, an empty one like any other, and
only the hits are counted up.  Everything else is a miss: the template is rendered, and the text is
kept, which may drive out one other text if its key is new (`exists_gone_insert`).  A rendering that
fails leaves every entry as it was, the one that was too old included.

There is one lookup that is neither a hit nor a miss: a threshold that the local clock cannot show
is refused where there is a text to compare it with, and nothing is counted.
-/

namespace SiteTemplates

/-- The local clock can show the threshold, if there is one. -/
def Showable (threshold : Option Moment) : Prop := ∀ t ∈ threshold, t.toLocal? ≠ none

namespace Stamped

variable {α : Type} {e : Stamped α} {threshold : Option Moment}

/-- The value is not older than the threshold, if there is one. -/
def Meets (e : Stamped α) (threshold : Option Moment) : Prop := ∀ t ∈ threshold, t.instant ≤ e.stamp

theorem current_of_not_showable (e : Stamped α) (h : ¬ Showable threshold) :
    current (some e) threshold = .error .outOfRange := by
  refine current_eq_error_iff.2 ⟨rfl, rfl, ?_⟩
  cases threshold with
  | none => exact absurd (fun t ht => nomatch ht) h
  | some t =>
    have hnone : t.toLocal? = none := by
      refine Decidable.by_contra fun hne => h fun u hu => ?_
      rw [← Option.some.inj hu]
      exact hne
    rw [Option.any_some, hnone]
    rfl

theorem current_since_of_showable {t : Moment} (h : Showable (some t)) (e : Stamped α) :
    current (some e) (some t) = .ok (if t.instant ≤ e.stamp then some e.value else none) := by
  have hlocal : t.toLocal?.isSome = true := Option.isSome_iff_ne_none.2 (h t rfl)
  have hstamp : stampOf t = .ok t.instant := by rw [stampOf_utc, if_pos hlocal]
  rw [current_since, hstamp]
  simp only [Except.map, isFresh, decide_eq_true_eq]

theorem current_of_meets (h : Showable threshold) (hm : e.Meets threshold) :
    current (some e) threshold = .ok (some e.value) := by
  cases threshold with
  | none => rfl
  | some t => rw [current_since_of_showable h, if_pos (hm t rfl)]

theorem current_of_not_meets (h : Showable threshold) (hm : ¬ e.Meets threshold) :
    current (some e) threshold = .ok none := by
  cases threshold with
  | none => exact absurd (fun t ht => nomatch ht) hm
  | some t =>
    have hold : ¬ t.instant ≤ e.stamp := by
      intro hle
      refine hm fun u hu => ?_
      rw [← Option.some.inj hu]
      exact hle
    rw [current_since_of_showable h, if_neg hold]

end Stamped

/-- Writing a text drives out one other text at most, and only if its key is new and there is no
room. -/
theorem RenderCache.exists_gone_insert (c : RenderCache) (key value : String) (stamp : Int) :
    ∃ gone : Option String,
      (gone ≠ none → c.contains key = false ∧ c.capacity ≤ c.size) ∧
      ∀ k, k ≠ key → (c.insert key value stamp).entries.get? k =
        if gone = some k then none else c.entries.get? k := by
  have hinsert : ∀ k, k ≠ key →
      (c.insert key value stamp).entries.get? k = (c.makeRoom key).entries.get? k := by
    intro k hk
    rw [insert, Table.get?_insert, if_neg hk]
  have hstays (h : c.makeRoom key = c) : ∃ gone : Option String,
      (gone ≠ none → c.contains key = false ∧ c.capacity ≤ c.size) ∧
      ∀ k, k ≠ key → (c.insert key value stamp).entries.get? k =
        if gone = some k then none else c.entries.get? k := by
    refine ⟨none, fun h => absurd rfl h, fun k hk => ?_⟩
    rw [hinsert k hk, h]
    rfl
  by_cases hk : c.contains key = true
  · exact hstays (makeRoom_of_contains hk)
  · have hnew : c.contains key = false := Bool.eq_false_of_not_eq_true hk
    rcases Nat.lt_or_ge c.size c.capacity with hroom | hfull
    · exact hstays (makeRoom_of_room hroom)
    · obtain ⟨-, e, -, -, -, hroom, -, -⟩ := makeRoom_of_full hnew hfull
      refine ⟨some e.1, fun _ => ⟨hnew, hfull⟩, fun k hne => ?_⟩
      rw [hinsert k hne, hroom]
      show (c.entries.erase e.1).get? k = _
      rw [Table.get?_erase]
      simp only [Option.some.injEq, eq_comm]

namespace CacheManager

/-- The caches with another count of lookups. -/
def counting (c : CacheManager) (hits misses : Nat) : CacheManager :=
  { c with renders := { c.renders with hits, misses } }

/-- A miss has found a text for a key: it is kept since an instant, and all other entries are as
before but for one text that may have been driven out. -/
structure Keeps (c : CacheManager) (key text : String) (stamp : Int) (c' : CacheManager) :
    Prop where
  /-- Records are as before. -/
  contents : c'.contents = c.contents
  /-- Templates are as before. -/
  templates : c'.templates = c.templates
  /-- There is room for as many texts as before. -/
  capacity : c'.renders.capacity = c.renders.capacity
  /-- The lookup was no hit. -/
  hits : c'.renders.hits = c.renders.hits
  /-- The lookup was a miss. -/
  misses : c'.renders.misses = c.renders.misses + 1
  /-- The text is kept. -/
  kept : c'.renders.entries.get? key = some ⟨text, stamp⟩
  /-- One other text at most is gone, and none if there was a text under the key, or room. -/
  others : ∃ gone : Option String,
    (gone ≠ none → c.renders.contains key = false ∧ c.renders.capacity ≤ c.renders.size) ∧
    ∀ k, k ≠ key → c'.renders.entries.get? k =
      if gone = some k then none else c.renders.entries.get? k

theorem keeps_insert (c : CacheManager) (key text : String) (stamp : Int) :
    c.Keeps key text stamp
      { c with renders := (c.renders.count none).insert key text stamp } := by
  have hentries : (c.renders.count none).entries = c.renders.entries := rfl
  obtain ⟨gone, hgone, hothers⟩ := (c.renders.count none).exists_gone_insert key text stamp
  have hcounts : ((c.renders.count none).insert key text stamp).hits = c.renders.hits ∧
      ((c.renders.count none).insert key text stamp).misses = c.renders.misses + 1 :=
    (c.renders.count none).counters_insert key text stamp
  exact {
    contents := rfl
    templates := rfl
    capacity := RenderCache.capacity_insert text stamp
    hits := hcounts.1
    misses := hcounts.2
    kept := RenderCache.get?_insert_self text stamp
    others := ⟨gone, hgone, hothers⟩ }

/-- **A cached rendering** uses a text again or renders its template, in every state.  A hit changes
the count of hits and nothing else, a rendering that fails the count of misses and nothing else, and
a fault of a template is reported with the key and in its own words.  A threshold that the local
clock cannot show changes nothing, where it is refused. -/
theorem reuses_or_renders (c : CacheManager) (s : RenderSettings) (now : Moment) (name : String)
    (context : Value) (key : String) (threshold : Option Moment) :
    let found := c.renders.entries.get? key
    let outcome := c.renderCached s now name context key threshold
    let missed := c.counting c.renders.hits (c.renders.misses + 1)
    (∀ e, found = some e → Showable threshold → e.Meets threshold →
      outcome = (c.counting (c.renders.hits + 1) c.renders.misses, .ok e.value)) ∧
    (∀ e, found = some e → ¬ Showable threshold → outcome = (c, .error .outOfRange)) ∧
    (found = none ∨ (∃ e, found = some e ∧ Showable threshold ∧ ¬ e.Meets threshold) →
      match (c.renderer s).renderTemplate now name context with
      | .ok text => ∃ c', c.Keeps key text now.instant c' ∧ outcome = (c', .ok text)
      | .error (.template e) => outcome = (missed, .error (.render key e)) ∧
          (Failure.render key e).message? = some (key ++ ": " ++ e.message)
      | .error e => outcome = (missed, .error e)) := by
  intro found outcome missed
  refine ⟨fun e he hs hm => ?_, fun e he hs => ?_, fun h => ?_⟩
  · have hpeek : c.renders.peek key threshold = .ok (some e.value) := by
      rw [RenderCache.peek, show c.renders.entries.get? key = some e from he]
      exact Stamped.current_of_meets hs hm
    exact renderCached_of_found hpeek
  · have hpeek : c.renders.peek key threshold = .error .outOfRange := by
      rw [RenderCache.peek, show c.renders.entries.get? key = some e from he]
      exact e.current_of_not_showable hs
    exact renderCached_of_error hpeek
  · have hpeek : c.renders.peek key threshold = .ok none := by
      rcases h with h | ⟨e, he, hs, hm⟩
      · rw [RenderCache.peek, show c.renders.entries.get? key = none from h]
        exact Stamped.current_none threshold
      · rw [RenderCache.peek, show c.renders.entries.get? key = some e from he]
        exact Stamped.current_of_not_meets hs hm
    have houtcome : outcome = _ := renderCached_of_missed hpeek
    rw [houtcome]
    dsimp only
    cases (c.renderer s).renderTemplate now name context with
    | ok text => exact ⟨_, c.keeps_insert key text now.instant, rfl⟩
    | error e =>
      cases e with
      | template e => exact ⟨rfl, rfl⟩
      | _ => rfl

def keepingNothing : CacheManager :=
  ⟨.empty, .empty, ⟨1, Table.empty.insert "k" ⟨"", AllowedRun.newYear.instant⟩, 3, 4, Nat.one_pos⟩⟩

/-- An empty text is found, and a template that is not there is reported with the key. -/
theorem reuses_or_renders_keepingNothing :
    let c := keepingNothing
    let now := AllowedRun.newYear
    Showable (some now) ∧
      c.renderCached .usual now "t" .null "k" (some now) = (c.counting 4 4, .ok "") ∧
      c.renderCached .usual now "t" .null "l" none =
        (c.counting 3 5, .error (.render "l" ⟨.missing .root "t", none⟩)) := by
  intro c now
  have hshowable : Showable (some now) := by
    intro t ht
    cases ht
    decide
  have hmeets : Stamped.Meets (⟨"", now.instant⟩ : Stamped String) (some now) := by
    intro t ht
    cases ht
    exact Int.le_refl _
  obtain ⟨hhit, -, -⟩ := reuses_or_renders c .usual now "t" .null "k" (some now)
  obtain ⟨-, -, hmiss⟩ := reuses_or_renders c .usual now "t" .null "l" none
  exact ⟨hshowable, hhit ⟨"", now.instant⟩ rfl hshowable hmeets, (hmiss (.inl rfl)).1⟩

/-- A threshold before the calendar: the text is not older, but the call fails and counts
nothing. -/
theorem not_reused_beforeCalendar :
    let c := keepingNothing
    let threshold := some AllowedRun.beforeCalendar
    (∃ e, c.renders.entries.get? "k" = some e ∧ e.Meets threshold) ∧
      c.renderCached .usual AllowedRun.newYear "t" .null "k" threshold =
        (c, .error .outOfRange) := by
  intro c threshold
  have hmeets : Stamped.Meets (⟨"", AllowedRun.newYear.instant⟩ : Stamped String) threshold := by
    intro t ht
    obtain rfl := Option.some.inj ht
    decide
  refine ⟨⟨_, rfl, hmeets⟩, ?_⟩
  have hpeek : c.renders.peek "k" threshold = .error .outOfRange :=
    Stamped.current_eq_error_iff.2 ⟨rfl, rfl, by decide⟩
  exact renderCached_of_error hpeek

end CacheManager

end SiteTemplates
