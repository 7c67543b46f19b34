import SiteTemplates.Proofs.Render.Simulation
import SiteTemplates.Proofs.Value.RecordFree

/-!
# Texts that stay

A rendering that succeeds has found every template that it asked for.  So it gives the same text
with any further templates (`renderTemplate_of_more`), and a name that was not found then may since
have got any source at all.  The time plays a part only in contexts with records
(`renderTemplate_of_recordFree`).
-/

namespace SiteTemplates

namespace Renderer

variable {s : RenderSettings} {source? source?' : String → Option String}

theorem applyFilters_congr {r r' : Renderer} (h : r.filters = r'.filters) (v : Value)
    (calls : List FilterCall) : r.applyFilters v calls = r'.applyFilters v calls := by
  induction calls generalizing v with
  | nil => rfl
  | cons call rest ih =>
    rw [applyFilters, applyFilters, h]
    cases r'.filters.apply call.name v call.arguments with
    | ok w => exact ih w
    | error e => rfl

theorem renderExpression_congr {r r' : Renderer} (h : r.filters = r'.filters) (e : Expression)
    (scope : Scope) : r.renderExpression e scope = r'.renderExpression e scope := by
  simp only [renderExpression, applyFilters_congr h]

theorem tree?_of_more (h : ∀ name t, source? name = some t → source?' name = some t)
    {name : String} {nodes : List Node}
    (ht : ({ s with source? := source? } : Renderer).tree? name = some nodes) :
    ({ s with source? := source?' } : Renderer).tree? name = some nodes := by
  obtain ⟨source, hs, hr⟩ := tree?_eq_some_iff.1 ht
  exact tree?_eq_some_iff.2 ⟨source, h name source hs, hr⟩

theorem agree_enter_of_more (h : ∀ name t, source? name = some t → source?' name = some t)
    (frame : Frame) (role : Role) (name : String) :
    Agree (fun _ _ => True) (({ s with source? := source? } : Renderer).enter frame role name)
      (({ s with source? := source?' } : Renderer).enter frame role name) := by
  refine .of_ok (fun nodes he => ?_)
  obtain ⟨hstack, hdepth, ht⟩ := enter_eq_ok_iff.1 he
  exact enter_eq_ok_iff.2 ⟨hstack, hdepth, tree?_of_more h ht⟩

/-- A rendering is compared with the same one over further templates: a text is the same text, and
any failure is excused. -/
def overMore (s : RenderSettings) (h : ∀ name t, source? name = some t → source?' name = some t) :
    Simulation { s with source? := source? } { s with source? := source?' } where
  frames f f' := f = f'
  scopes scope scope' := scope = scope'
  nodes _ _ := True
  excused _ _ := True
  excused_of_none _ _ _ := trivial
  excused_endless := trivial
  same_fillings := by
    rintro f _ rfl name
    rfl
  agree_expression := by
    rintro f _ scope _ e rfl rfl -
    have he : ({ s with source? := source? } : Renderer).renderExpression e scope =
        ({ s with source? := source?' } : Renderer).renderExpression e scope :=
      renderExpression_congr (by rfl) e scope
    rw [he]
    exact .refl (fun _ _ => trivial)
  agree_value := by
    rintro f _ scope _ x path rfl rfl - -
    exact .refl (fun _ _ => trivial)
  agree_descend := by
    rintro f _ rfl
    exact .of_ok (fun _ hd => hd)
  agree_enter := by
    rintro f _ x role name overrides rfl - -
    exact agree_enter_of_more h f role name
  scopes_loop := by
    rintro f scope _ path body items rfl - - item -
    rfl
  frames_loop := by
    rintro f _ rfl
    rfl
  frames_template := by
    rintro f _ x role name overrides overrides' ns rfl - ha ha' -
    rw [ha.eq ha']
  nodes_within _ _ _ _ _ := trivial
  nodes_loop _ _ _ := trivial
  nodes_template _ _ _ _ _ _ _ _ _ _ _ _ _ := trivial

/-- What has been rendered is rendered alike with further templates. -/
theorem renderTemplate_of_more (h : ∀ name t, source? name = some t → source?' name = some t)
    {now : Moment} {name : String} {context : Value} {text : String}
    (ht : ({ s with source? := source? } : Renderer).renderTemplate now name context = .ok text) :
    ({ s with source? := source?' } : Renderer).renderTemplate now name context = .ok text := by
  obtain ⟨scope, nodes, hs, htree, hin⟩ := renderTemplate_eq_ok_iff.1 ht
  have hframe : (overMore s h).frames { stack := [name], name := some name }
      { stack := [name], name := some name } := rfl
  have hagree := (overMore s h).agree_renderIn hframe scope scope nodes rfl (fun _ _ => trivial)
  exact renderTemplate_eq_ok_iff.2
    ⟨scope, nodes, hs, tree?_of_more h htree, hagree.eq_of_ok hin⟩

/-- Without records the time plays no part. -/
theorem renderTemplate_of_recordFree {r : Renderer} {context : Value}
    (h : context.recordFree = true) (now now' : Moment) (name : String) :
    r.renderTemplate now name context = r.renderTemplate now' name context := by
  have hs : scopeOf now context = scopeOf now' context := by
    rw [scopeOf, scopeOf, Value.close?_of_recordFree now now' context h]
  rw [renderTemplate, renderTemplate, hs]

end Renderer

end SiteTemplates
