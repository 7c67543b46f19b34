import SiteTemplates.Proofs.Cache.Lookup
import SiteTemplates.Proofs.Render.Adequacy
import SiteTemplates.Proofs.Template.Shown
import SiteTemplates.Proofs.Value.Index
import SiteTemplates.Proofs.Value.Simple

/-!
# Renderings of simple values

A rendering whose context is simple and whose filters are built in, `date` aside, fails for faults
of templates.  Two things come on top (`BreaksOff`): a path may stray at a list, and blocks may go
on without end.

All that a run ever has in its scopes and loops is simple (`Reaches.simple`).  A node that is
visited in a simple scope fails for a template or because a path of its own strays
(`explained_of_visit`), and by `answer_eq_error_iff` that is where the failure of an answer comes
from.
-/

namespace SiteTemplates

/-! ### Filters of simple values -/

/-- Every filter is a built-in one, and none is `date`. -/
def FilterRegistry.DateFree (filters : FilterRegistry) : Prop :=
  ∀ name f, filters.get? name = some f → ∃ n, (n, f) ∈ FilterRegistry.builtins ∧ n ≠ "date"

def Unbroken (x : Except Failure Value) : Prop :=
  (∃ v, x = .ok v ∧ v.simple = true) ∨ ∃ t, x = .error (.template t)

namespace Filter

variable {v : Value}

theorem exists_shownText (h : v.simple = true) : ∃ s, shownText v = .ok s := by
  obtain ⟨s, hs⟩ := Value.exists_shown? h
  exact ⟨s, by rw [shownText, hs]⟩

theorem unbroken_onText (h : v.simple = true) (f : List Char → List Char)
    (arguments : List String) : Unbroken (onText f v arguments) := by
  obtain ⟨s, hs⟩ := exists_shownText h
  exact .inl ⟨.text (String.ofList (f s)), by rw [onText, hs]; rfl, rfl⟩

theorem unbroken_cut (h : v.simple = true) (name : String) (arguments : List String) :
    Unbroken (cut name v arguments) := by
  obtain ⟨s, hs⟩ := exists_shownText h
  rw [cut, hs]
  cases hl : integerArgument name defaultLength arguments with
  | error e =>
    obtain ⟨a, rfl⟩ := error_of_integerArgument hl
    exact .inr ⟨_, rfl⟩
  | ok length => exact .inl ⟨.text (String.ofList (Text.truncate s length)), rfl, rfl⟩

end Filter

namespace FilterRegistry

variable {filters : FilterRegistry}

theorem DateFree.unbroken (h : filters.DateFree) {v : Value} (hv : v.simple = true) (name : String)
    (arguments : List String) : Unbroken (filters.apply name v arguments) := by
  unfold apply
  split
  · rename_i f hf
    obtain ⟨n, hm, hn⟩ := h name f hf
    obtain ⟨rfl, -⟩ | ⟨g, rfl⟩ | ⟨cutName, rfl⟩ := cases_of_mem_builtins hm
    · exact absurd rfl hn
    · exact Filter.unbroken_onText hv g arguments
    · exact Filter.unbroken_cut hv cutName arguments
  · exact .inl ⟨v, rfl, hv⟩

/-- No filter that is built in complains of blocks without end. -/
theorem DateFree.ne_endless (h : filters.DateFree) (name : String) (v : Value)
    (arguments : List String) : filters.apply name v arguments ≠ .error .endless := by
  unfold apply
  split
  · rename_i f hf
    intro he
    obtain ⟨n, hm, -⟩ := h name f hf
    cases complains_of_mem_builtins hm he
  · rintro ⟨⟩

theorem dateFree_erase_date : DateFree (builtin.erase "date") := by
  intro name f hf
  rw [Table.get?_erase] at hf
  split at hf
  · cases hf
  · rename_i hn
    rcases mem_of_get?_foldl builtins Table.empty hf with hnone | hm
    · cases hnone
    · exact ⟨name, hm, hn⟩

end FilterRegistry

namespace Renderer

variable {r : Renderer} {f : Frame} {s : Scope} {x : Node}

/-! ### Nodes in a simple scope -/

/-- Looking a path up gives a simple value, unless the path strays. -/
theorem valueOf_of_simple (hs : Value.simpleEntries s = true) (path : String) :
    (∃ v, valueOf path s = .ok v ∧ v.simple = true) ∨
      Value.Strays path s ∧ valueOf path s = .error .badNumber := by
  unfold valueOf
  cases hr : Value.resolve? path s with
  | none => exact .inr ⟨Value.resolve?_eq_none_iff.1 hr, rfl⟩
  | some v => exact .inl ⟨v, rfl, Value.simple_of_resolve? hs hr⟩

theorem simple_of_valueOf {path : String} {v : Value} (hs : Value.simpleEntries s = true)
    (h : valueOf path s = .ok v) : v.simple = true := by
  rcases valueOf_of_simple hs path with ⟨w, hw, hsimple⟩ | ⟨-, he⟩
  · rw [hw] at h
    cases h
    exact hsimple
  · rw [he] at h
    cases h

theorem valueOf_of_strays {path : String} (h : Value.Strays path s) :
    valueOf path s = .error .badNumber := by
  rw [valueOf, Value.resolve?_eq_none_iff.2 h]

theorem unbroken_applyFilters (hf : r.filters.DateFree) {v : Value} (hv : v.simple = true)
    (calls : List FilterCall) : Unbroken (r.applyFilters v calls) := by
  induction calls generalizing v with
  | nil => exact .inl ⟨v, rfl, hv⟩
  | cons call rest ih =>
    rw [applyFilters]
    rcases hf.unbroken hv call.name call.arguments with ⟨w, hw, hsimple⟩ | ⟨t, ht⟩
    · rw [hw]
      exact ih hsimple
    · rw [ht]
      exact .inr ⟨t, rfl⟩

/-- A failure is a fault of a template, or a path strays that a node looks up. -/
def Explained (x : Node) (s : Scope) (e : Failure) : Prop :=
  (∃ t, e = .template t) ∨ e = .badNumber ∧ ∃ path, Reads x path ∧ Value.Strays path s

theorem explained_of_valueOf {path : String} {e : Failure} (hr : Reads x path)
    (hs : Value.simpleEntries s = true) (h : valueOf path s = .error e) : Explained x s e := by
  rcases valueOf_of_simple hs path with ⟨v, hv, -⟩ | ⟨hstrays, hv⟩
  · rw [hv] at h
    cases h
  · rw [hv] at h
    cases h
    exact .inr ⟨rfl, path, hr, hstrays⟩

theorem explained_of_renderExpression (hf : r.filters.DateFree) {y : Expression} {e : Failure}
    (hs : Value.simpleEntries s = true) (h : r.renderExpression y s = .error e) :
    Explained (.variable y) s e := by
  rcases error_of_bind h with h | ⟨v, hv, h⟩
  · exact explained_of_valueOf (.expression y) hs h
  have happlied := unbroken_applyFilters hf (simple_of_valueOf hs hv) y.filters
  rcases happlied with ⟨w, hw, hsimple⟩ | ⟨t, ht⟩
  · obtain ⟨text, htext⟩ := Filter.exists_shownText hsimple
    rw [hw] at h
    simp only [bind, Except.bind, htext] at h
    cases h
  · rw [ht] at h
    cases h
    exact .inl ⟨t, rfl⟩

theorem template_of_read {source : String} {name : Option String} {e : Failure}
    (h : r.read source name = .error e) : ∃ t, e = .template t := by
  rcases error_of_read h with rfl | ⟨flaw, rfl⟩ <;> exact ⟨_, rfl⟩

theorem template_of_enter {role : Role} {name : String} {e : Failure}
    (h : r.enter f role name = .error e) : ∃ t, e = .template t := by
  rcases error_of_enter h with ⟨-, rfl⟩ | ⟨-, rfl⟩ | rfl | ⟨source, -, h⟩
  · exact ⟨_, rfl⟩
  · exact ⟨_, rfl⟩
  · exact ⟨_, rfl⟩
  · exact template_of_read h

/-- **A node fails in a simple scope for a template, or because a path of its own strays.** -/
theorem explained_of_visit (hf : r.filters.DateFree) {e : Failure}
    (hs : Value.simpleEntries s = true) (h : r.visit f s x = .error e) : Explained x s e := by
  cases fails_of_visit h with
  | expression h => exact explained_of_renderExpression hf hs h
  | test ht h => exact explained_of_valueOf (.test ht) hs h
  | depth => exact .inl ⟨_, rfl⟩
  | enter h => exact .inl (template_of_enter h)

theorem visit_of_strays {path : String} (hr : Reads x path) (h : Value.Strays path s) :
    r.visit f s x = .error .badNumber := by
  have hv := valueOf_of_strays h
  cases hr with
  | expression y =>
    rw [visit, renderExpression, hv]
    rfl
  | test ht =>
    cases ht with
    | conditional path negated body alternative =>
      rw [visit, hv]
      rfl
    | each path body =>
      rw [visit, hv]
      rfl

/-! ### Runs over simple values -/

/-- The scope of a task and the items that are left of a loop are simple. -/
def SimpleTask : Task → Prop
  | .nodes _ s _ => Value.simpleEntries s = true
  | .items _ s _ values => Value.simpleEntries s = true ∧ ∀ v ∈ values, v.simple = true

def SimpleTasks : Progress → Prop
  | .going _ tasks => ∀ task ∈ tasks, SimpleTask task
  | .ended _ => True

theorem simple_of_mem_itemsOf {v item : Value} (h : v.simple = true) (hi : item ∈ itemsOf v) :
    item.simple = true := by
  cases v with
  | list items => exact Value.simpleAll_iff.1 h item hi
  | _ => cases hi

theorem Leaves.simpleTask {tasks : List Task} {task : Task} (hs : Value.simpleEntries s = true)
    (h : r.Leaves f s tasks) (ht : task ∈ tasks) : SimpleTask task := by
  cases h with
  | nothing => cases ht
  | nodes ns =>
    obtain rfl := List.mem_singleton.1 ht
    exact hs
  | loop body hv hd =>
    obtain rfl := List.mem_singleton.1 ht
    exact ⟨hs, fun item hi => simple_of_mem_itemsOf (simple_of_valueOf hs hv) hi⟩
  | template he overrides =>
    obtain rfl := List.mem_singleton.1 ht
    exact hs

theorem simpleTasks_step {p : Progress} (h : SimpleTasks p) : SimpleTasks (r.step p) := by
  match p with
  | .ended o => trivial
  | .going done [] => trivial
  | .going done (.items f s body [] :: rest) =>
    exact fun task ht => h task (List.mem_cons_of_mem _ ht)
  | .going done (.items f s body (v :: values) :: rest) =>
    obtain ⟨hs, hvalues⟩ := h _ List.mem_cons_self
    intro task ht
    rcases List.mem_cons.1 ht with rfl | ht
    · exact Value.simpleEntries_loopScope hs (hvalues v List.mem_cons_self)
    rcases List.mem_cons.1 ht with rfl | ht
    · exact ⟨hs, fun w hw => hvalues w (List.mem_cons_of_mem _ hw)⟩
    · exact h task (List.mem_cons_of_mem _ ht)
  | .going done (.nodes f s [] :: rest) =>
    exact fun task ht => h task (List.mem_cons_of_mem _ ht)
  | .going done (.nodes f s (x :: ns) :: rest) =>
    have hs : Value.simpleEntries s = true := h _ List.mem_cons_self
    rw [step]
    split
    · rename_i t tasks hv
      intro task ht
      rcases List.mem_append.1 ht with ht | ht
      · exact (leaves_of_visit hv).simpleTask hs ht
      rcases List.mem_cons.1 ht with rfl | ht
      · exact hs
      · exact h task (List.mem_cons_of_mem _ ht)
    · trivial

variable {now : Moment} {context : Value} {q : Request}

/-- **All that a run over a simple context ever has is simple.** -/
theorem Reaches.simple {p : Progress} (hc : context.simple = true)
    (h : r.Reaches (r.start now context q) p) : SimpleTasks p := by
  refine h.invariant (I := SimpleTasks) (fun _ => simpleTasks_step) ?_
  rw [start]
  cases hp : r.prepare now context q with
  | error e => trivial
  | ok prepared =>
    obtain ⟨scope, ns⟩ := prepared
    have hscope := (prepare_eq_ok hp).1
    intro task ht
    obtain rfl := List.mem_singleton.1 ht
    rcases scopeOf_of_simple now hc with ⟨scope', hs, hsimple⟩ | he
    · rw [hs] at hscope
      cases hscope
      exact hsimple
    · rw [he] at hscope
      cases hscope

/-! ### Failures of a rendering -/

theorem template_of_scopeAndTree (hc : context.simple = true) {text : String}
    {name : Option String} {e : Failure} (h : r.scopeAndTree now context text name = .error e) :
    ∃ t, e = .template t := by
  rcases error_of_bind h with h | ⟨scope, -, h⟩
  · rcases scopeOf_of_simple now hc with ⟨scope, hs, -⟩ | he
    · rw [hs] at h
      cases h
    · rw [he] at h
      cases h
      exact ⟨_, rfl⟩
  · rcases error_of_bind h with h | ⟨ns, -, h⟩
    · exact template_of_read h
    · cases h

theorem template_of_prepare (hc : context.simple = true) {e : Failure}
    (h : r.prepare now context q = .error e) : ∃ t, e = .template t := by
  cases q with
  | source text => exact template_of_scopeAndTree hc h
  | template name =>
    rw [prepare] at h
    split at h
    · cases h
      exact ⟨_, rfl⟩
    · exact template_of_scopeAndTree hc h

theorem Visits.simple (hc : context.simple = true)
    (h : r.Visits (r.start now context q) f s x) : Value.simpleEntries s = true := by
  obtain ⟨done, ns, rest, hreach⟩ := h
  exact hreach.simple hc _ List.mem_cons_self

/-- What a run breaks off with that is no fault of a template. -/
inductive BreaksOff (r : Renderer) (p : Progress) : Failure → Prop
  | astray {f : Frame} {s : Scope} {x : Node} {path : String} (hv : r.Visits p f s x)
      (hr : Reads x path) (hs : Value.Strays path s) : BreaksOff r p .badNumber
  | endless (h : ¬ r.Ends p) : BreaksOff r p .endless

theorem answer_eq_error_iff_breaksOff (hf : r.filters.DateFree) (hc : context.simple = true)
    {e : Failure} (he : ∀ t, e ≠ .template t) :
    r.answer now context q = .error e ↔ r.BreaksOff (r.start now context q) e := by
  by_cases hend : e = .endless
  · subst hend
    rw [answer_eq_endless_iff hf.ne_endless]
    constructor
    · exact .endless
    · intro h
      cases h with
      | endless h => exact h
  rw [answer_eq_error_iff hend]
  constructor
  · rintro (hp | ⟨f, s, x, hv, hx⟩)
    · obtain ⟨t, rfl⟩ := template_of_prepare hc hp
      exact absurd rfl (he t)
    · rcases explained_of_visit hf (hv.simple hc) hx with ⟨t, rfl⟩ | ⟨rfl, path, hr, hs⟩
      · exact absurd rfl (he t)
      · exact .astray hv hr hs
  · intro h
    cases h with
    | astray hv hr hs => exact .inr ⟨_, _, _, hv, visit_of_strays hr hs⟩
    | endless h => exact absurd rfl hend

theorem BreaksOff.ne_template {p : Progress} {e : Failure} (h : r.BreaksOff p e)
    (t : TemplateError) : e ≠ .template t := by
  rintro rfl
  cases h

theorem forKey_of_ne_template {e : Failure} (he : ∀ t, e ≠ .template t) (key : String) :
    e.forKey key = e := by
  cases e with
  | template t => exact absurd rfl (he t)
  | _ => rfl

/-- What is kept under a key is looked up, or else rendered, and fails as the one or the other. -/
theorem renderCached_eq_error_iff_breaksOff {settings : RenderSettings}
    (hf : settings.filters.DateFree) (hc : context.simple = true) (c : CacheManager)
    (name key : String) (threshold : Option Moment) {e : Failure} (he : ∀ t, e ≠ .render key t) :
    (c.renderCached settings now name context key threshold).2 = .error e ↔
      c.renders.peek key threshold = .error e ∨
        c.renders.peek key threshold = .ok none ∧ (c.renderer settings).BreaksOff
          ((c.renderer settings).start now context (.template name)) e := by
  cases hp : c.renders.peek key threshold with
  | error e' => simp [CacheManager.renderCached_of_error hp]
  | ok found =>
    cases found with
    | some text => simp [CacheManager.renderCached_of_found hp]
    | none =>
      rw [CacheManager.renderCached_of_missed hp]
      simp only [reduceCtorEq, true_and, false_or]
      constructor
      · intro h
        cases hr : (c.renderer settings).renderTemplate now name context with
        | ok text =>
          rw [hr] at h
          cases h
        | error e' =>
          have hne : ∀ t, e' ≠ .template t := by
            rintro t rfl
            rw [hr] at h
            cases h
            exact he t rfl
          rw [hr, Except.mapError, forKey_of_ne_template hne] at h
          cases h
          exact (answer_eq_error_iff_breaksOff hf hc hne).1 hr
      · intro h
        have hr : (c.renderer settings).renderTemplate now name context = .error e :=
          (answer_eq_error_iff_breaksOff hf hc h.ne_template).2 h
        rw [hr, Except.mapError, forKey_of_ne_template h.ne_template]

/-! ### A path that strays -/

/-- The built-in filters without `date`, and no templates. -/
def dateFree : Renderer :=
  { RenderSettings.usual with
    filters := FilterRegistry.builtin.erase "date"
    source? := fun _ => none }

def listContext : Value := .map [(.text "xs", .list [.int 1])]

theorem simple_listContext : listContext.simple = true := by
  decide +kernel

theorem render_superscript :
    dateFree.render (.ofDate ⟨2024, 1, 1, by decide⟩) "\x7b\x7bxs.²\x7d\x7d" listContext =
      .error .badNumber := by
  have hread : dateFree.read "\x7b\x7bxs.²\x7d\x7d" none = .ok [.variable ⟨"xs.²", []⟩] :=
    read_eq_ok_iff.2 ⟨by decide, by rfl⟩
  have hscope : scopeOf (.ofDate ⟨2024, 1, 1, by decide⟩) listContext =
      .ok [(.text "xs", .list [.int 1])] := rfl
  have hvalue : valueOf "xs.²" [(.text "xs", .list [.int 1])] = .error .badNumber := by rfl
  simp only [render, hscope, hread, bind, Except.bind, renderIn_variable, renderExpression, hvalue]

/-- **Over a simple context rendering fails for templates, but for paths that stray and for runs
without an end.**  A cached rendering fails for its key in the same way; besides it fails for a
threshold that the local clock cannot show, where there is a text to compare with it. -/
theorem failures_of_simple (r : Renderer) (hf : r.filters.DateFree) (now : Moment)
    {context : Value} (hc : context.simple = true) :
    (∀ q e, (∀ t, e ≠ .template t) →
      (r.answer now context q = .error e ↔ r.BreaksOff (r.start now context q) e)) ∧
    ∀ (c : CacheManager) (name key : String) (threshold : Option Moment) (e : Failure),
      (∀ t, e ≠ .render key t) →
      ((c.renderCached r.toRenderSettings now name context key threshold).2 = .error e ↔
        (e = .outOfRange ∧ (c.renders.entries.get? key).isSome = true ∧
          threshold.any (fun t => t.toLocal?.isNone) = true) ∨
        c.renders.peek key threshold = .ok none ∧ (c.renderer r.toRenderSettings).BreaksOff
          ((c.renderer r.toRenderSettings).start now context (.template name)) e) := by
  constructor
  · intro q e he
    exact answer_eq_error_iff_breaksOff hf hc he
  · intro c name key threshold e he
    rw [renderCached_eq_error_iff_breaksOff hf hc c name key threshold he,
      RenderCache.peek, Stamped.current_eq_error_iff]

theorem failures_of_simple_superscript :
    dateFree.filters.DateFree ∧ listContext.simple = true ∧
      dateFree.BreaksOff (dateFree.start (.ofDate ⟨2024, 1, 1, by decide⟩) listContext
        (.source "\x7b\x7bxs.²\x7d\x7d")) .badNumber := by
  have hf : dateFree.filters.DateFree := FilterRegistry.dateFree_erase_date
  have hall := failures_of_simple dateFree hf (.ofDate ⟨2024, 1, 1, by decide⟩) simple_listContext
  refine ⟨hf, simple_listContext, (hall.1 _ _ (fun t ht => ?_)).1 render_superscript⟩
  cases ht

/-- A superscript counts as a digit of an index, so the list is asked for a number and no text comes
out, nor is a template at fault. -/
theorem not_textOrTemplate_superscript :
    dateFree.filters.DateFree ∧ listContext.simple = true ∧
      ¬ ((∃ text, dateFree.answer (.ofDate ⟨2024, 1, 1, by decide⟩) listContext
          (.source "\x7b\x7bxs.²\x7d\x7d") = .ok text) ∨
        ∃ t, dateFree.answer (.ofDate ⟨2024, 1, 1, by decide⟩) listContext
          (.source "\x7b\x7bxs.²\x7d\x7d") = .error (.template t)) := by
  refine ⟨FilterRegistry.dateFree_erase_date, simple_listContext, ?_⟩
  rw [answer, render_superscript]
  rintro (⟨text, h⟩ | ⟨t, h⟩) <;> cases h

end Renderer

end SiteTemplates
