import Mathlib.Data.List.DropRight
import Mathlib.Data.List.Induction
import SiteTemplates.Proofs.Cache.Operation
import SiteTemplates.Proofs.Cache.Reuse
import SiteTemplates.Proofs.Number.Nearest

/-!
# The counters account for every lookup

A lookup is answered if a text is kept under its key and is not older than its threshold, and it is
a miss if not, whatever comes of the rendering that follows.  One kind of lookup is neither: where a
text is kept but the local clock cannot show the threshold, the lookup is refused
(`RenderCache.peek_eq`).  All other calls leave the counters as they are (`counts_respond`), except
that they begin anew when the caches are emptied.

So after any sequence of calls the hits are the lookups that were answered since then, and hits and
misses together are all lookups since then that were not refused (`accounts_after`).  The share of
the hits is a finite number, the nearest one to the quotient.
-/

namespace SiteTemplates

instance (threshold : Option Moment) : Decidable (Showable threshold) :=
  inferInstanceAs (Decidable (∀ t ∈ threshold, t.toLocal? ≠ none))

instance (e : Stamped String) (threshold : Option Moment) : Decidable (e.Meets threshold) :=
  inferInstanceAs (Decidable (∀ t ∈ threshold, t.instant ≤ e.stamp))

namespace RenderCache

variable {c : RenderCache} {key : String} {threshold : Option Moment}

/-- The text that is kept under a key and is not older than a threshold that can be shown. -/
def answer? (c : RenderCache) (key : String) (threshold : Option Moment) : Option String :=
  match c.entries.get? key with
  | some e => if Showable threshold ∧ e.Meets threshold then some e.value else none
  | none => none

/-- A text is kept under the key, and there is no way to compare it with the threshold. -/
def refuses (c : RenderCache) (key : String) (threshold : Option Moment) : Bool :=
  c.contains key && !decide (Showable threshold)

def counts (c : RenderCache) : Nat × Nat := (c.hits, c.misses)

theorem peek_eq (c : RenderCache) (key : String) (threshold : Option Moment) :
    c.peek key threshold =
      if c.refuses key threshold then .error .outOfRange else .ok (c.answer? key threshold) := by
  unfold peek refuses answer? contains Table.contains
  cases c.entries.get? key with
  | none => exact Stamped.current_none threshold
  | some e =>
    by_cases hs : Showable threshold
    · by_cases hm : e.Meets threshold
      · simp [Stamped.current_of_meets hs hm, hs, hm]
      · simp [Stamped.current_of_not_meets hs hm, hs, hm]
    · simp [Stamped.current_of_not_showable e hs, hs]

theorem answer?_of_refuses (h : c.refuses key threshold = true) :
    c.answer? key threshold = none := by
  obtain ⟨-, hhidden⟩ := Bool.and_eq_true_iff.1 h
  have hs : ¬Showable threshold := by simpa using hhidden
  unfold answer?
  split
  · exact if_neg (fun hmeets => hs hmeets.1)
  · rfl

theorem refuses_of_answer? {text : String} (h : c.answer? key threshold = some text) :
    c.refuses key threshold = false := by
  cases hr : c.refuses key threshold with
  | true =>
    rw [answer?_of_refuses hr] at h
    cases h
  | false => rfl

theorem counts_insert (value : String) (stamp : Int) :
    (c.insert key value stamp).counts = c.counts := by
  obtain ⟨hhits, hmisses⟩ := c.counters_insert key value stamp
  rw [counts, hhits, hmisses]
  rfl

theorem hitRatio_isNearest (h : c.hits + c.misses ≠ 0) :
    c.hitRatio.IsNearest (c.hits / (c.hits + c.misses : Nat)) := by
  rw [hitRatio, if_neg h]
  exact Binary.isNearest_ofRatio (Nat.pos_of_ne_zero h) (Nat.le_add_right c.hits c.misses)

end RenderCache

/-! ### One call -/

namespace CacheManager

variable {c : CacheManager} {now : Moment} {operation : Operation} {key : String}
  {threshold : Option Moment}

theorem counts_updated {result : Except Failure CacheManager}
    (h : ∀ c', result = .ok c' → c'.renders.counts = c.renders.counts) :
    (c.updated result).1.renders.counts = c.renders.counts := by
  cases result with
  | ok c' => exact h c' rfl
  | error f => rfl

theorem renders_warmUp (c : CacheManager) (now : Moment) (records : List Record)
    (templates : List Template) : (c.warmUp now records templates).1.renders = c.renders := by
  have hrecords := (cacheRecords_fst records c).1
  have htemplates (c' : CacheManager) : (c'.cacheTemplates now templates).renders = c'.renders := by
    induction templates generalizing c' with
    | nil => rfl
    | cons t rest ih => exact ih (c'.cacheTemplate now t.name t)
  unfold warmUp
  cases hc : cacheRecords records c with
  | mk c' outcome =>
    rw [hc] at hrecords
    cases outcome with
    | ok u => exact (htemplates c').trans hrecords
    | error e => exact hrecords

/-- What is no lookup leaves the counters as they are, unless it empties the caches. -/
theorem counts_respond (hlookup : operation.lookup? = none) (hclear : operation.isClear = false) :
    (c.respond now operation).1.renders.counts = c.renders.counts := by
  cases operation with
  | cacheRecord key r =>
    refine counts_updated fun c' hc => ?_
    rw [(cacheRecord_eq_ok hc).1]
  | cacheRendered key value time =>
    refine counts_updated fun c' hc => ?_
    unfold cacheRendered RenderCache.put at hc
    cases hstamp : stampOr now time with
    | error f =>
      rw [hstamp] at hc
      cases hc
    | ok stamp =>
      rw [hstamp] at hc
      cases hc
      exact RenderCache.counts_insert value stamp
  | warmUp records templates =>
    show (c.warmUp now records templates).1.renders.counts = _
    rw [renders_warmUp]
  | getRendered key threshold => cases hlookup
  | renderCached s name context key threshold => cases hlookup
  | clear => cases hclear
  | _ => rfl

/-- Nothing is counted once the caches are emptied. -/
theorem counts_respond_of_isClear (h : operation.isClear = true) :
    (c.respond now operation).1.renders.counts = (0, 0) := by
  cases operation with
  | clear => rfl
  | _ => cases h

theorem respond_getRendered (c : CacheManager) (now : Moment) (key : String)
    (threshold : Option Moment) : c.respond now (.getRendered key threshold) =
      match c.renders.peek key threshold with
      | .ok found => ({ c with renders := c.renders.count found }, .text found)
      | .error f => (c, .failed f) := by
  simp only [respond, getRendered, RenderCache.get]
  cases c.renders.peek key threshold <;> rfl

theorem respond_renderCached (c : CacheManager) (now : Moment) (s : RenderSettings) (name : String)
    (context : Value) (key : String) (threshold : Option Moment) :
    c.respond now (.renderCached s name context key threshold) =
      ((c.renderCached s now name context key threshold).1,
        .ofOutcome (c.renderCached s now name context key threshold).2) := rfl

/-- A lookup that is refused changes nothing. -/
theorem respond_of_refused (h : operation.lookup? = some (key, threshold))
    (hr : c.renders.refuses key threshold = true) :
    c.respond now operation = (c, .failed .outOfRange) := by
  have hpeek := c.renders.peek_eq key threshold
  rw [if_pos hr] at hpeek
  cases operation with
  | getRendered k t =>
    cases h
    rw [respond_getRendered, hpeek]
  | renderCached s name context k t =>
    cases h
    rw [respond_renderCached, renderCached_of_error hpeek]
    rfl
  | _ => cases h

/-- A lookup that is answered gives the text, and is a hit. -/
theorem respond_of_answered (h : operation.lookup? = some (key, threshold)) {text : String}
    (ha : c.renders.answer? key threshold = some text) :
    c.respond now operation =
      ({ c with renders := c.renders.count (some text) }, .text (some text)) := by
  have hpeek := c.renders.peek_eq key threshold
  rw [RenderCache.refuses_of_answer? ha, if_neg Bool.false_ne_true, ha] at hpeek
  cases operation with
  | getRendered k t =>
    cases h
    rw [respond_getRendered, hpeek]
  | renderCached s name context k t =>
    cases h
    rw [respond_renderCached, renderCached_of_found hpeek]
    rfl
  | _ => cases h

/-- Any other lookup is a miss, also if the rendering that follows fails. -/
theorem counts_respond_of_missed (h : operation.lookup? = some (key, threshold))
    (hr : c.renders.refuses key threshold = false)
    (ha : c.renders.answer? key threshold = none) :
    (c.respond now operation).1.renders.counts = (c.renders.hits, c.renders.misses + 1) := by
  have hpeek := c.renders.peek_eq key threshold
  rw [hr, if_neg Bool.false_ne_true, ha] at hpeek
  cases operation with
  | getRendered k t =>
    cases h
    rw [respond_getRendered, hpeek]
    rfl
  | renderCached s name context k t =>
    cases h
    rw [respond_renderCached, renderCached_of_missed hpeek]
    cases (c.renderer s).renderTemplate now name context with
    | ok text => exact RenderCache.counts_insert text now.instant
    | error f => rfl
  | _ => cases h

/-- An answer is counted as a hit, and a lookup that is not refused as a hit or as a miss. -/
theorem counters_respond (h : operation.lookup? = some (key, threshold)) :
    let before := c.renders
    let after := (c.respond now operation).1.renders
    after.hits = before.hits + (if (before.answer? key threshold).isSome then 1 else 0) ∧
      after.hits + after.misses =
        before.hits + before.misses + (if !before.refuses key threshold then 1 else 0) := by
  intro before after
  cases hr : before.refuses key threshold with
  | true =>
    have hsame : after = before := by
      show (c.respond now operation).1.renders = _
      rw [respond_of_refused h hr]
    rw [hsame, RenderCache.answer?_of_refuses hr]
    exact ⟨rfl, rfl⟩
  | false =>
    cases ha : before.answer? key threshold with
    | some text =>
      have hhit : after = before.count (some text) := by
        show (c.respond now operation).1.renders = _
        rw [respond_of_answered h ha]
      rw [hhit]
      refine ⟨rfl, ?_⟩
      show before.hits + 1 + before.misses = before.hits + before.misses + 1
      omega
    | none =>
      have hmissed : after.counts = (before.hits, before.misses + 1) :=
        counts_respond_of_missed h hr ha
      obtain ⟨hhits, hmisses⟩ := Prod.mk.inj hmissed
      rw [show after.hits = before.hits from hhits,
        show after.misses = before.misses + 1 from hmisses]
      exact ⟨rfl, rfl⟩

end CacheManager

/-! ### The calls since the caches were emptied -/

namespace Event

variable {e : Event}

/-- The text that answers a lookup. -/
def answer? (e : Event) : Option String :=
  e.call.operation.lookup?.bind (fun (key, threshold) => e.caches.renders.answer? key threshold)

/-- Whether a lookup is refused. -/
def isRefused (e : Event) : Bool :=
  e.call.operation.lookup?.any (fun (key, threshold) => e.caches.renders.refuses key threshold)

def isLookup (e : Event) : Bool := e.call.operation.lookup?.isSome

/-- Whether the call is a lookup that is not refused. -/
def isCounted (e : Event) : Bool := e.isLookup && !e.isRefused

/-- Whether the call is a lookup that is answered. -/
def isAnswered (e : Event) : Bool := e.answer?.isSome

theorem exists_of_isRefused (h : e.isRefused = true) : ∃ key threshold,
    e.call.operation.lookup? = some (key, threshold) ∧
      e.caches.renders.refuses key threshold = true := by
  unfold isRefused at h
  cases hlookup : e.call.operation.lookup? with
  | none =>
    rw [hlookup] at h
    cases h
  | some lookup =>
    rw [hlookup] at h
    exact ⟨lookup.1, lookup.2, rfl, h⟩

theorem outcome_of_isRefused (e : Event) (h : e.isRefused = true) :
    e.outcome = (e.caches, .failed .outOfRange) := by
  obtain ⟨key, threshold, hlookup, hr⟩ := exists_of_isRefused h
  exact CacheManager.respond_of_refused hlookup hr

theorem outcome_of_answer? (e : Event) {text : String} (h : e.answer? = some text) :
    e.outcome.2 = .text (some text) := by
  obtain ⟨⟨key, threshold⟩, hlookup, ha⟩ := Option.bind_eq_some_iff.1 h
  rw [outcome, CacheManager.respond_of_answered hlookup ha]

/-- A plain lookup that is not refused gives what answers it, and nothing if nothing does. -/
theorem outcome_of_getRendered (e : Event) {key : String} {threshold : Option Moment}
    (h : e.call.operation = .getRendered key threshold) (hr : e.isRefused = false) :
    e.outcome.2 = .text e.answer? := by
  have hrefuses : e.caches.renders.refuses key threshold = false := by
    rw [isRefused, h] at hr
    exact hr
  have hpeek := e.caches.renders.peek_eq key threshold
  rw [hrefuses, if_neg Bool.false_ne_true] at hpeek
  rw [outcome, answer?, h, CacheManager.respond_getRendered, hpeek]
  rfl

/-- **One call**: an answer is counted as a hit, and a lookup that is not refused as a hit or as a
miss. -/
theorem counters_outcome (h : e.call.operation.isClear = false) :
    let before := e.caches.renders
    let after := e.outcome.1.renders
    after.hits = before.hits + (if e.isAnswered then 1 else 0) ∧
      after.hits + after.misses = before.hits + before.misses + (if e.isCounted then 1 else 0) := by
  intro before after
  unfold isAnswered isCounted isLookup isRefused answer?
  cases hlookup : e.call.operation.lookup? with
  | none =>
    have hsame : after.counts = before.counts := CacheManager.counts_respond hlookup h
    obtain ⟨hhits, hmisses⟩ := Prod.mk.inj hsame
    rw [show after.hits = before.hits from hhits, show after.misses = before.misses from hmisses]
    exact ⟨rfl, rfl⟩
  | some lookup => exact CacheManager.counters_respond hlookup

end Event

/-- The events since the caches were last emptied. -/
def sinceClear (events : List Event) : List Event :=
  events.rtakeWhile (fun e => !e.call.operation.isClear)

theorem sinceClear_concat (events : List Event) (e : Event) : sinceClear (events ++ [e]) =
    if e.call.operation.isClear then [] else sinceClear events ++ [e] := by
  rw [sinceClear, List.rtakeWhile_concat]
  cases e.call.operation.isClear <;> rfl

namespace CacheManager

variable {c : CacheManager}

theorem counts_ofCapacity {capacity : Int} (hc : ofCapacity capacity = .ok c) :
    c.renders.counts = (0, 0) := by
  unfold ofCapacity RenderCache.ofCapacity at hc
  split at hc
  · cases hc
    rfl
  · cases hc

/-- **A run**: the counters are those of the events since the caches were last emptied. -/
theorem counters_after (hcounts : c.renders.counts = (0, 0)) (calls : List Call) :
    let recent := sinceClear (c.log calls)
    let r := (c.after calls).renders
    r.hits = recent.countP Event.isAnswered ∧
      r.hits + r.misses = recent.countP Event.isCounted := by
  induction calls using List.reverseRecOn with
  | nil =>
    obtain ⟨hhits, hmisses⟩ := Prod.mk.inj hcounts
    show c.renders.hits = 0 ∧ c.renders.hits + c.renders.misses = 0
    rw [hhits, hmisses]
    exact ⟨rfl, rfl⟩
  | append_singleton calls call ih =>
    obtain ⟨hhits, hboth⟩ := ih
    simp only [after_concat, log_concat, sinceClear_concat]
    cases hclear : call.operation.isClear with
    | true =>
      have hempty : (Event.mk (c.after calls) call).outcome.1.renders.counts = (0, 0) :=
        counts_respond_of_isClear hclear
      obtain ⟨hhits, hmisses⟩ := Prod.mk.inj hempty
      rw [hhits, hmisses]
      exact ⟨rfl, rfl⟩
    | false =>
      obtain ⟨hstep, hstepBoth⟩ := Event.counters_outcome (e := ⟨c.after calls, call⟩) hclear
      rw [if_neg Bool.false_ne_true, List.countP_append, List.countP_append, List.countP_singleton,
        List.countP_singleton, ← hhits, ← hboth]
      exact ⟨hstep, hstepBoth⟩

/-- What the counters of caches say about the events that led to the caches. -/
structure Accounts (events : List Event) (c : CacheManager) : Prop where
  /-- The hits are the lookups since the caches were emptied that were answered. -/
  hits : c.statistics.hits = (sinceClear events).countP Event.isAnswered
  /-- The hits and the misses are the lookups since then that were not refused. -/
  lookups : c.statistics.hits + c.statistics.misses = (sinceClear events).countP Event.isCounted
  /-- What answers a lookup is what is replied. -/
  answered : ∀ e ∈ events, ∀ text, e.answer? = some text → e.outcome.2 = .text (some text)
  /-- A plain lookup that is not answered, nor refused, gives no text. -/
  unanswered : ∀ e ∈ events, ∀ key threshold, e.call.operation = .getRendered key threshold →
    e.isRefused = false → e.answer? = none → e.outcome.2 = .text none
  /-- What is refused changes nothing. -/
  refused : ∀ e ∈ events, e.isRefused = true → e.outcome = (e.caches, .failed .outOfRange)
  /-- Other calls change no counter, unless they empty the caches. -/
  others : ∀ now operation, operation.lookup? = none → operation.isClear = false →
    let s := (c.respond now operation).1.statistics
    s.hits = c.statistics.hits ∧ s.misses = c.statistics.misses
  /-- The share of the hits is zero if there were no lookups. -/
  no_lookups : c.statistics.hits + c.statistics.misses = 0 →
    c.renders.hitRatio = .finite false 0 0
  /-- It is the nearest number to the quotient if there were any. -/
  share : c.statistics.hits + c.statistics.misses ≠ 0 → c.renders.hitRatio.IsNearest
    (c.statistics.hits / (c.statistics.hits + c.statistics.misses : Nat))

/-- **The counters account for every lookup**, whatever is asked of the caches. -/
theorem accounts_after {capacity : Int} (hc : ofCapacity capacity = .ok c) (calls : List Call) :
    (c.after calls).Accounts (c.log calls) := by
  obtain ⟨hhits, hlookups⟩ := counters_after (counts_ofCapacity hc) calls
  refine ⟨hhits, hlookups, ?_, ?_, ?_, ?_, ?_, ?_⟩
  · exact fun e he text ha => e.outcome_of_answer? ha
  · intro e he key threshold hget hr hnone
    rw [e.outcome_of_getRendered hget hr, hnone]
  · exact fun e he hr => e.outcome_of_isRefused hr
  · intro now operation hlookup hclear
    exact Prod.mk.inj (counts_respond hlookup hclear)
  · exact fun hnone => if_pos hnone
  · exact RenderCache.hitRatio_isNearest

/-- One text is kept and found; another one is not found, and cannot be rendered. -/
def lookingUp : List Call :=
  [⟨AllowedRun.newYear, .cacheRendered "k" "hi" none⟩,
    ⟨AllowedRun.newYear, .getRendered "k" none⟩,
    ⟨AllowedRun.newYear, .renderCached .usual "t" .null "l" none⟩]

theorem accounts_after_lookingUp :
    ofCapacity 1 = .ok AllowedRun.noCaches ∧
      (AllowedRun.noCaches.after lookingUp).Accounts (AllowedRun.noCaches.log lookingUp) ∧
      (AllowedRun.noCaches.after lookingUp).renders.counts = (1, 1) := by
  have hc : ofCapacity 1 = .ok AllowedRun.noCaches := rfl
  refine ⟨hc, accounts_after hc lookingUp, ?_⟩
  decide

/-- A text is looked up with a threshold before the calendar. -/
def refusing : List Call :=
  [⟨AllowedRun.newYear, .cacheRendered "k" "hi" none⟩,
    ⟨AllowedRun.newYear, .getRendered "k" (some AllowedRun.beforeCalendar)⟩]

/-- The lookup is not counted. -/
theorem uncounted_beforeCalendar :
    ofCapacity 1 = .ok AllowedRun.noCaches ∧
      (sinceClear (AllowedRun.noCaches.log refusing)).countP Event.isLookup = 1 ∧
      (AllowedRun.noCaches.after refusing).statistics.hits +
        (AllowedRun.noCaches.after refusing).statistics.misses = 0 :=
  ⟨rfl, rfl, rfl⟩

end CacheManager

end SiteTemplates
