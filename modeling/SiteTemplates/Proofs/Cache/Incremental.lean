import SiteTemplates.Proofs.Cache.Command
import SiteTemplates.Proofs.Cache.Lookup
import SiteTemplates.Proofs.Render.Stability

/-!
# The render cache is correct

A text that is kept is used again without a look at its template.  That is right because a text is
kept only if its rendering succeeded, so that every template it asked for was found.  Where
templates are written only under names that are not found at that time, none of those is replaced;
and when a template is marked as invalid all texts are dropped, so that it does not matter that the
marks go only one step along the graph of templates.

`Faithful` is the invariant: each text that is kept is what rendering gives now.  Commands keep it
(`Clocked.faithful_step`), so it holds in every run (`AllowedRun.faithful`), and a text from the
cache cannot be told from a fresh one.  Only a threshold that the local clock cannot show makes a
difference: looking for a text fails if there is one to compare it with.
-/

namespace SiteTemplates

/-- What each render key is used for: one template and one context, which holds no records. -/
structure KeyUse where
  template : String → String
  context : String → Value
  recordFree : ∀ key, (context key).recordFree = true

/-- Each template in turn goes to a name that is not found when it is written. -/
def CacheManager.WritesUnseen (now : Moment) : List Template → CacheManager → Prop
  | [], _ => True
  | t :: rest, c =>
    c.templates.get? t.name = none ∧ WritesUnseen now rest (c.cacheTemplate now t.name t)

/-- The commands that are allowed: templates go to names that are not found, and keys are used for
what they are meant for. -/
def Clocked.Allowed (use : KeyUse) (w : Clocked) : Command → Prop
  | .cacheTemplate name _ => w.caches.templates.get? name = none
  | .warmUp records templates =>
    (CacheManager.cacheRecords records w.caches).1.WritesUnseen w.now templates
  | .renderCached name context key _ => name = use.template key ∧ context = use.context key
  | _ => True

/-- What allowed commands make of empty caches. -/
inductive AllowedRun (s : RenderSettings) (use : KeyUse) : Clocked → Prop
  | start {capacity : Int} {c : CacheManager} (h : CacheManager.ofCapacity capacity = .ok c)
      (now : Moment) : AllowedRun s use ⟨c, now⟩
  | step {w : Clocked} {command : Command} (h : AllowedRun s use w) (ha : w.Allowed use command) :
      AllowedRun s use (w.step s command)

/-- Each text that is kept is what rendering gives, at any time. -/
def CacheManager.Faithful (s : RenderSettings) (use : KeyUse) (c : CacheManager) : Prop :=
  ∀ key e, c.renders.entries.get? key = some e → ∀ now,
    (c.renderer s).renderTemplate now (use.template key) (use.context key) = .ok e.value

namespace CacheManager

variable {s : RenderSettings} {use : KeyUse} {c c' : CacheManager}

/-- Texts stay right when texts are dropped and templates are found that were not found before. -/
theorem Faithful.mono (h : c.Faithful s use)
    (hr : ∀ key e, c'.renders.entries.get? key = some e → c.renders.entries.get? key = some e)
    (ht : ∀ name t, c.source? name = some t → c'.source? name = some t) :
    c'.Faithful s use := by
  intro key e he now
  exact Renderer.renderTemplate_of_more ht (h key e (hr key e he) now)

theorem Faithful.of_templates_eq (h : c.Faithful s use)
    (hr : ∀ key e, c'.renders.entries.get? key = some e → c.renders.entries.get? key = some e)
    (ht : c'.templates = c.templates) : c'.Faithful s use := by
  refine h.mono hr (fun name t hs => ?_)
  unfold source?
  rw [ht]
  exact hs

theorem faithful_of_no_renders (h : ∀ key, c.renders.entries.get? key = none) :
    c.Faithful s use := by
  intro key e he
  rw [h key] at he
  cases he

theorem Faithful.cacheTemplate (h : c.Faithful s use) {now : Moment} {name : String}
    (hn : c.templates.get? name = none) (t : Template) :
    (c.cacheTemplate now name t).Faithful s use := by
  refine h.mono (fun _ _ he => he) (fun n source hs => ?_)
  have hne : n ≠ name := by
    rintro rfl
    unfold source? at hs
    rw [hn] at hs
    cases hs
  unfold source? CacheManager.cacheTemplate
  rw [TemplateCache.get?_put, if_neg hne]
  exact hs

theorem Faithful.cacheTemplates (h : c.Faithful s use) {now : Moment} {templates : List Template}
    (hw : c.WritesUnseen now templates) : (c.cacheTemplates now templates).Faithful s use := by
  induction templates generalizing c with
  | nil => exact h
  | cons t rest ih => exact ih (h.cacheTemplate hw.1 t) hw.2

theorem Faithful.warmUp (h : c.Faithful s use) {now : Moment} {records : List Record}
    {templates : List Template}
    (hw : (cacheRecords records c).1.WritesUnseen now templates) :
    (c.warmUp now records templates).1.Faithful s use := by
  obtain ⟨hr, ht⟩ := cacheRecords_fst records c
  have hrecords : (cacheRecords records c).1.Faithful s use :=
    h.of_templates_eq (fun key e he => by rwa [hr] at he) ht
  unfold CacheManager.warmUp
  cases hc : cacheRecords records c with
  | mk c' outcome =>
    rw [hc] at hrecords hw
    cases outcome with
    | ok u => exact hrecords.cacheTemplates hw
    | error e => exact hrecords

theorem Faithful.count (h : c.Faithful s use) (found : Option String) :
    ({ c with renders := c.renders.count found } : CacheManager).Faithful s use :=
  h.of_templates_eq (fun key e he => by rwa [RenderCache.entries_count] at he) rfl

/-- A text that was rendered just now is right, and stays so at any time. -/
theorem Faithful.insert (h : c.Faithful s use) {now : Moment} {key text : String}
    (hf : (c.renderer s).renderTemplate now (use.template key) (use.context key) = .ok text)
    (stamp : Int) :
    ({ c with renders := c.renders.insert key text stamp } : CacheManager).Faithful s use := by
  intro k e he now'
  rcases RenderCache.get?_of_insert he with ⟨rfl, rfl⟩ | he
  · exact (Renderer.renderTemplate_of_recordFree (use.recordFree k) now' now _).trans hf
  · exact h k e he now'

theorem Faithful.renderCached (h : c.Faithful s use) (now : Moment) (key : String)
    (threshold : Option Moment) :
    (c.renderCached s now (use.template key) (use.context key) key threshold).1.Faithful s use := by
  cases hp : c.renders.peek key threshold with
  | error e =>
    rw [renderCached_of_error hp]
    exact h
  | ok found =>
    cases found with
    | some text =>
      rw [renderCached_of_found hp]
      exact h.count (some text)
    | none =>
      rw [renderCached_of_missed hp]
      cases hf : (c.renderer s).renderTemplate now (use.template key) (use.context key) with
      | ok text => exact (h.count none).insert hf now.instant
      | error e => exact h.count none

end CacheManager

namespace Clocked

variable {s : RenderSettings} {use : KeyUse} {w : Clocked}

/-- An allowed command keeps every text right. -/
theorem faithful_step (h : w.caches.Faithful s use) {command : Command}
    (ha : w.Allowed use command) : (w.step s command).caches.Faithful s use := by
  cases command with
  | cacheTemplate name t => exact h.cacheTemplate ha t
  | warmUp records templates => exact h.warmUp ha
  | invalidateTemplate name =>
    exact CacheManager.faithful_of_no_renders (fun key => RenderCache.get?_invalidate_star)
  | invalidateContent key =>
    refine h.of_templates_eq (fun k e he => ?_) rfl
    have hk : (w.caches.renders.invalidate ("*" ++ key ++ "*")).entries.get? k = some e := he
    rw [RenderCache.get?_invalidate] at hk
    split at hk
    · cases hk
    · exact hk
  | addDependency name dependency => exact h.mono (fun _ _ he => he) (fun _ _ hs => hs)
  | cacheRecord key r =>
    cases hc : w.caches.cacheRecord key r with
    | error e =>
      simp only [step, hc]
      exact h
    | ok c' =>
      simp only [step, hc]
      obtain ⟨hr, ht⟩ := CacheManager.cacheRecord_eq_ok hc
      exact h.of_templates_eq (fun k e he => by rwa [hr] at he) ht
  | getRendered key threshold =>
    cases hc : w.caches.getRendered key threshold with
    | error e =>
      simp only [step, hc]
      exact h
    | ok p =>
      simp only [step, hc]
      obtain ⟨c', found⟩ := p
      obtain ⟨-, rfl⟩ := CacheManager.getRendered_eq_ok hc
      exact h.count found
  | clear => exact CacheManager.faithful_of_no_renders (fun key => rfl)
  | setClock now => exact h
  | renderCached name context key threshold =>
    obtain ⟨rfl, rfl⟩ := ha
    exact h.renderCached w.now key threshold

end Clocked

namespace AllowedRun

variable {s : RenderSettings} {use : KeyUse} {w : Clocked}

theorem faithful (h : AllowedRun s use w) : w.caches.Faithful s use := by
  induction h with
  | start hc now =>
    exact CacheManager.faithful_of_no_renders (fun key => CacheManager.get?_ofCapacity hc key)
  | step _ ha ih => exact Clocked.faithful_step ih ha

/-! ### A run -/

def greetingUse : KeyUse := ⟨fun _ => "t", fun _ => .map [], fun _ => rfl⟩

def greeting : Template := ⟨"t", "hi", by decide⟩

def noCaches : CacheManager := ⟨.empty, .empty, ⟨1, Table.empty, 0, 0, by decide⟩⟩

def newYear : Moment := .ofDate ⟨2024, 1, 1, by decide⟩

def greeted : Clocked := ⟨noCaches.cacheTemplate newYear "t" greeting, newYear⟩

def rendered : Clocked := greeted.step .usual (.renderCached "t" (.map []) "k" none)

/-- The calendar starts with the year 1. -/
theorem isDate_first : IsDate 1 1 1 := by decide

/-- The first moment of the calendar on a clock that is ahead of universal time. -/
def beforeCalendar : Moment :=
  ⟨⟨1, 1, 1, isDate_first⟩, .midnight, some ⟨18000000000, by decide, none⟩⟩

theorem run_greeted : AllowedRun .usual greetingUse greeted := by
  have hc : CacheManager.ofCapacity 1 = .ok noCaches := rfl
  have hstart : AllowedRun .usual greetingUse ⟨noCaches, newYear⟩ := .start hc newYear
  have ha : Clocked.Allowed greetingUse ⟨noCaches, newYear⟩ (.cacheTemplate "t" greeting) := rfl
  exact hstart.step ha

theorem run_rendered : AllowedRun .usual greetingUse rendered := .step run_greeted ⟨rfl, rfl⟩

theorem renderTemplate_greeted (now : Moment) :
    (greeted.caches.renderer .usual).renderTemplate now "t" (.map []) = .ok "hi" := by
  have ht : (greeted.caches.renderer .usual).tree? "t" = some [.text "hi"] :=
    Renderer.tree?_eq_some_iff.2 ⟨"hi", rfl, Renderer.read_eq_ok_iff.2 ⟨by decide, by rfl⟩⟩
  have hs : Renderer.scopeOf now (.map []) = .ok [] := rfl
  rw [Renderer.renderTemplate_of_tree? hs ht, Renderer.renderIn_eq]
  rfl

theorem caches_rendered :
    rendered.caches = { greeted.caches with
      renders := (greeted.caches.renders.count none).insert "k" "hi" greeted.now.instant } := by
  have hp : greeted.caches.renders.peek "k" none = .ok none := rfl
  show (greeted.caches.renderCached _ _ _ _ _ _).1 = _
  rw [CacheManager.renderCached_of_missed hp, renderTemplate_greeted]

theorem contains_rendered : rendered.caches.renders.contains "k" = true := by
  rw [caches_rendered]
  unfold RenderCache.contains Table.contains
  rw [RenderCache.get?_insert_self]
  rfl

theorem renderTemplate_rendered (now : Moment) :
    (rendered.caches.renderer .usual).renderTemplate now "t" (.map []) = .ok "hi" := by
  rw [caches_rendered]
  exact renderTemplate_greeted now

/-! ### Correctness -/

/-- **The render cache is correct.** In every run the text for a key, or the failure to make it, is
what rendering its template afresh gives, a fault naming the key as well.  The exception is a
threshold that the local clock cannot show, which fails where a text is kept for the key. -/
theorem outcome_renderCached (h : AllowedRun s use w) (key : String) (threshold : Option Moment) :
    (w.caches.renderCached s w.now (use.template key) (use.context key) key threshold).2 =
      if w.caches.renders.contains key && threshold.any (fun t => t.toLocal?.isNone) then
        .error .outOfRange
      else
        ((w.caches.renderer s).renderTemplate w.now (use.template key)
          (use.context key)).mapError (Failure.forKey key) := by
  cases hp : w.caches.renders.peek key threshold with
  | error e =>
    obtain ⟨rfl, hk, ht⟩ := Stamped.current_eq_error_iff.1 hp
    rw [CacheManager.renderCached_of_error hp]
    have hunseen : (w.caches.renders.contains key &&
        threshold.any (fun t => t.toLocal?.isNone)) = true := Bool.and_eq_true_iff.2 ⟨hk, ht⟩
    rw [if_pos hunseen]
  | ok found =>
    have hseen : ¬ (w.caches.renders.contains key &&
        threshold.any (fun t => t.toLocal?.isNone)) = true := by
      intro hu
      have he := Stamped.current_eq_error_iff.2 ⟨rfl, Bool.and_eq_true_iff.1 hu⟩
      exact absurd (hp.symm.trans he) (by simp)
    rw [if_neg hseen]
    cases found with
    | some text =>
      obtain ⟨e, he, rfl⟩ := Stamped.exists_of_current_some hp
      rw [CacheManager.renderCached_of_found hp, h.faithful key e he w.now]
      rfl
    | none => rw [CacheManager.renderCached_of_missed hp]

theorem outcome_renderCached_rendered :
    AllowedRun .usual greetingUse rendered ∧
      (rendered.caches.renderCached .usual rendered.now "t" (.map []) "k" none).2 =
        ((rendered.caches.renderer .usual).renderTemplate rendered.now "t"
          (.map [])).mapError (Failure.forKey "k") := by
  refine ⟨run_rendered, (outcome_renderCached run_rendered "k" none).trans ?_⟩
  rw [Option.any_none, Bool.and_false, if_neg Bool.false_ne_true]
  rfl

/-- A threshold before the calendar: the text is kept and rendering succeeds, and the call fails. -/
theorem renderCached_beforeCalendar :
    AllowedRun .usual greetingUse rendered ∧
      (rendered.caches.renderer .usual).renderTemplate rendered.now "t" (.map []) = .ok "hi" ∧
      (rendered.caches.renderCached .usual rendered.now "t" (.map []) "k"
        (some beforeCalendar)).2 = .error .outOfRange := by
  refine ⟨run_rendered, renderTemplate_rendered _, ?_⟩
  have hp : rendered.caches.renders.peek "k" (some beforeCalendar) = .error .outOfRange :=
    Stamped.current_eq_error_iff.2 ⟨rfl, contains_rendered, by decide⟩
  rw [CacheManager.renderCached_of_error hp]

end AllowedRun

end SiteTemplates
