import SiteTemplates.Proofs.Cache.Incremental
import SiteTemplates.Proofs.Cache.TemplateRun

/-!
# The template cache is a map of templates

Marks of invalid names, their entries that stay in place and the edges of the graph are seen from
outside only as names that are not found.  So the cache can be compared with a plain map of
templates, from which a name is deleted when it would be marked: the cache finds what the map holds
(`entry?_run`).  The graph is the cache's own; the map takes from it, for each invalidation, the
dependency sets of that moment.

Rendering asks the cache for sources and nothing else, so it cannot tell the cache from the map
(`run_is_plain`).
-/

namespace SiteTemplates

/-- Templates under names, each with the instant at which it was written. -/
abbrev PlainTemplates := String → Option (Stamped Template)

namespace PlainTemplates

/-- What a command makes of the map.  The time and the dependency sets are those of `w`. -/
def step (w : TemplateState) (m : PlainTemplates) : TemplateCommand → PlainTemplates
  | .put name t => fun n => if n = name then some ⟨t, w.now.instant⟩ else m n
  | .addDependency _ _ => m
  | .invalidate name => fun n => if n = name ∨ name ∈ w.cache.dependencies n then none else m n
  | .remove name => fun n => if n = name then none else m n
  | .clear => fun _ => none
  | .setClock _ => m

/-- What commands make of the map, while they go on from `w` as well. -/
def run (w : TemplateState) (m : PlainTemplates) : List TemplateCommand → PlainTemplates
  | [] => m
  | command :: rest => run (w.step command) (step w m command) rest

/-- The source under a name. -/
def source? (m : PlainTemplates) (name : String) : Option String :=
  (m name).map (fun e => e.value.source)

end PlainTemplates

namespace TemplateState

/-- **One command** does the same to the map as to what the cache finds. -/
theorem entry?_step (w : TemplateState) (command : TemplateCommand) :
    TemplateCache.entry? (w.step command).cache = PlainTemplates.step w w.cache.entry? command := by
  funext n
  cases command with
  | put name t => exact TemplateCache.entry?_put w.now name t
  | addDependency name dependency => rfl
  | invalidate name => exact TemplateCache.entry?_invalidate name
  | remove name => exact TemplateCache.entry?_remove name
  | clear => rfl
  | setClock now => rfl

/-- In a run the cache finds what the map holds. -/
theorem entry?_run (w : TemplateState) (commands : List TemplateCommand) :
    TemplateCache.entry? (w.run commands).cache = PlainTemplates.run w w.cache.entry? commands := by
  induction commands generalizing w with
  | nil => rfl
  | cons command rest ih =>
    rw [PlainTemplates.run, ← entry?_step]
    exact ih (w.step command)

end TemplateState

/-- Whether an entry is there and current, said by instants; a threshold that the local clock cannot
show is refused where there is an entry. -/
theorem Stamped.isCurrent_eq {α : Type} (e? : Option (Stamped α)) (threshold : Moment) :
    isCurrent e? threshold =
      if e?.isSome && threshold.toLocal?.isNone then .error .outOfRange
      else .ok (e?.any (fun e => decide (threshold.instant ≤ e.stamp))) := by
  cases e? with
  | none =>
    rw [isCurrent, current_none]
    rfl
  | some e =>
    rw [isCurrent, current_since, stampOf_utc]
    cases threshold.toLocal? with
    | none => rfl
    | some l =>
      show Except.ok (Option.isSome (if e.isFresh threshold.instant then _ else _)) = _
      rw [isFresh]
      by_cases h : threshold.instant ≤ e.stamp <;> simp [h]

namespace TemplateState

/-- The cache without templates. -/
def start (now : Moment) : TemplateState := ⟨.empty, now⟩

/-- **The template cache is a map of templates.**  After every run from an empty cache it finds the
templates of the plain map.  A name is valid for a threshold exactly if the map holds it and it was
written no earlier; only a threshold that the local clock cannot show is refused, where the map
holds the name.  And all rendering through the cache has the outcome of rendering with the sources
of the map. -/
theorem run_is_plain (now : Moment) (commands : List TemplateCommand) :
    let c := ((start now).run commands).cache
    let m := PlainTemplates.run (start now) (fun _ => none) commands
    (∀ name, c.get? name = (m name).map Stamped.value) ∧
      (∀ name threshold, c.isValid name threshold =
        if (m name).isSome && threshold.toLocal?.isNone then .error .outOfRange
        else .ok ((m name).any (fun e => decide (threshold.instant ≤ e.stamp)))) ∧
      ∀ (contents : ContentCache) (renders : RenderCache) (s : RenderSettings) (present : Moment)
        (context : Value),
        let r := CacheManager.renderer ⟨contents, c, renders⟩ s
        let plain : Renderer := { s with source? := m.source? }
        (∀ source, r.render present source context = plain.render present source context) ∧
          ∀ name, r.renderTemplate present name context =
            plain.renderTemplate present name context := by
  intro c m
  have hentry : c.entry? = m := entry?_run (start now) commands
  refine ⟨fun name => by rw [← hentry]; rfl, fun name threshold => ?_, ?_⟩
  · rw [← hentry]
    exact Stamped.isCurrent_eq _ _
  · intro contents renders s present context r plain
    have hsource : CacheManager.source? ⟨contents, c, renders⟩ = m.source? := by
      funext name
      rw [CacheManager.source?, TemplateCache.get?, hentry, Option.map_map]
      rfl
    have hr : r = plain := congrArg (fun f => ({ s with source? := f } : Renderer)) hsource
    rw [hr]
    exact ⟨fun _ => rfl, fun _ => rfl⟩

/-- A template that is written in 2024 is not said to be valid since before the calendar: that
question is refused. -/
theorem isValid_beforeCalendar :
    let commands : List TemplateCommand := [.put "t" AllowedRun.greeting]
    let c := ((start AllowedRun.newYear).run commands).cache
    let m := PlainTemplates.run (start AllowedRun.newYear) (fun _ => none) commands
    m "t" = some ⟨AllowedRun.greeting, AllowedRun.newYear.instant⟩ ∧
      AllowedRun.beforeCalendar.instant ≤ AllowedRun.newYear.instant ∧
      c.isValid "t" AllowedRun.beforeCalendar = .error .outOfRange := by
  refine ⟨rfl, by decide, ?_⟩
  have hentry : TemplateCache.entry? ((start AllowedRun.newYear).run
      [.put "t" AllowedRun.greeting]).cache "t" =
        some ⟨AllowedRun.greeting, AllowedRun.newYear.instant⟩ := rfl
  rw [TemplateCache.isValid, Stamped.isCurrent_eq]
  simp only [hentry]
  rfl

end TemplateState

end SiteTemplates
