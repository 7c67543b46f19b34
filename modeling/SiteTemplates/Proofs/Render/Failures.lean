import SiteTemplates.Proofs.Render.Levels

/-!
# How the steps of rendering fail

Each step of rendering fails in a few ways only, and most of them name the template that the frame
belongs to.  A filter may fail in any way; those of the built-in registry fail for a number without
text or for an argument that is not an integer.
-/

namespace SiteTemplates

theorem error_of_bind {α β : Type} {x : Except Failure α} {f : α → Except Failure β}
    {e : Failure} (h : x >>= f = .error e) : x = .error e ∨ ∃ a, x = .ok a ∧ f a = .error e := by
  cases x with
  | error e' =>
    cases h
    exact .inl rfl
  | ok a => exact .inr ⟨a, rfl, h⟩

theorem ok_of_bind {α β : Type} {x : Except Failure α} {f : α → Except Failure β} {b : β}
    (h : x >>= f = .ok b) : ∃ a, x = .ok a ∧ f a = .ok b := by
  cases x with
  | error e => cases h
  | ok a => exact ⟨a, rfl, h⟩

/-! ### Filters -/

namespace Filter

theorem error_of_shownText {v : Value} {e : Failure} (h : shownText v = .error e) :
    e = .badNumber := by
  unfold shownText at h
  split at h
  · cases h
  · cases h
    rfl

theorem error_of_integerArgument {filter : String} {default : Int} {arguments : List String}
    {e : Failure} (h : integerArgument filter default arguments = .error e) :
    ∃ a, e = .template ⟨.notInteger filter a, none⟩ := by
  unfold integerArgument at h
  split at h
  · cases h
  · rename_i a _
    split at h
    · cases h
    · cases h
      exact ⟨a, rfl⟩

/-- The failures of the built-in filters. -/
inductive Complains : Failure → Prop
  | badNumber : Complains .badNumber
  | notInteger (filter argument : String) :
      Complains (.template ⟨.notInteger filter argument, none⟩)

theorem complains_of_onText {f : List Char → List Char} {v : Value} {arguments : List String}
    {e : Failure} (h : onText f v arguments = .error e) : Complains e := by
  rcases error_of_bind h with h | ⟨s, _, h⟩
  · rw [error_of_shownText h]
    exact .badNumber
  · cases h

theorem complains_of_cut {name : String} {v : Value} {arguments : List String} {e : Failure}
    (h : cut name v arguments = .error e) : Complains e := by
  rcases error_of_bind h with h | ⟨s, _, h⟩
  · rw [error_of_shownText h]
    exact .badNumber
  · rcases error_of_bind h with h | ⟨n, _, h⟩
    · obtain ⟨a, rfl⟩ := error_of_integerArgument h
      exact .notInteger name a
    · cases h

theorem complains_of_date {v : Value} {arguments : List String} {e : Failure}
    (h : date v arguments = .error e) : Complains e := by
  unfold date at h
  split at h <;> cases h

end Filter

namespace FilterRegistry

theorem mem_of_get?_foldl (es : List (String × Filter)) (r : FilterRegistry) {name : String}
    {f : Filter} (h : (es.foldl (fun r e => r.insert e.1 e.2) r).get? name = some f) :
    r.get? name = some f ∨ (name, f) ∈ es := by
  induction es generalizing r with
  | nil => exact .inl h
  | cons e rest ih =>
    rcases ih (r.insert e.1 e.2) h with hr | hm
    · rw [Table.get?_insert] at hr
      split at hr
      · rename_i hn
        obtain rfl := Option.some.inj hr
        subst hn
        exact .inr List.mem_cons_self
      · exact .inl hr
    · exact .inr (List.mem_cons_of_mem _ hm)

/-- A built-in filter is `date`, or works on the shown text, or cuts it. -/
theorem cases_of_mem_builtins {name : String} {f : Filter} (hm : (name, f) ∈ builtins) :
    (name = "date" ∧ f = Filter.date) ∨ (∃ g, f = Filter.onText g) ∨ ∃ n, f = Filter.cut n := by
  simp only [builtins, List.mem_cons, Prod.mk.injEq, List.not_mem_nil, or_false] at hm
  obtain h | ⟨-, rfl⟩ | ⟨-, rfl⟩ | ⟨-, rfl⟩ | ⟨-, rfl⟩ | ⟨-, rfl⟩ | ⟨-, rfl⟩ | ⟨-, rfl⟩ |
    ⟨-, rfl⟩ := hm
  · exact .inl h
  · exact .inr (.inl ⟨_, rfl⟩)
  · exact .inr (.inr ⟨_, rfl⟩)
  · exact .inr (.inr ⟨_, rfl⟩)
  all_goals exact .inr (.inl ⟨_, rfl⟩)

/-- A failure of a built-in filter tells of a number without text or of an argument that is not an
integer. -/
theorem complains_of_mem_builtins {name : String} {f : Filter} (hm : (name, f) ∈ builtins)
    {v : Value} {arguments : List String} {e : Failure} (h : f v arguments = .error e) :
    Filter.Complains e := by
  obtain ⟨-, rfl⟩ | ⟨g, rfl⟩ | ⟨n, rfl⟩ := cases_of_mem_builtins hm
  · exact Filter.complains_of_date h
  · exact Filter.complains_of_onText h
  · exact Filter.complains_of_cut h

theorem complains_of_builtin {name : String} {v : Value} {arguments : List String} {e : Failure}
    (h : builtin.apply name v arguments = .error e) : Filter.Complains e := by
  unfold apply at h
  split at h
  · rename_i f hf
    rcases mem_of_get?_foldl builtins Table.empty hf with hn | hm
    · cases hn
    · exact complains_of_mem_builtins hm h
  · cases h

end FilterRegistry

/-! ### Expressions and templates -/

namespace Renderer

variable {r : Renderer}

theorem error_of_valueOf {path : String} {scope : Scope} {e : Failure}
    (h : valueOf path scope = .error e) : e = .badNumber := by
  unfold valueOf at h
  split at h
  · cases h
  · cases h
    rfl

theorem error_of_applyFilters {v : Value} {calls : List FilterCall} {e : Failure}
    (h : r.applyFilters v calls = .error e) :
    ∃ name w arguments, r.filters.apply name w arguments = .error e := by
  induction calls generalizing v with
  | nil => cases h
  | cons call rest ih =>
    unfold applyFilters at h
    split at h
    · exact ih h
    · rename_i e' he
      cases h
      exact ⟨_, _, _, he⟩

theorem error_of_renderExpression {x : Expression} {scope : Scope} {e : Failure}
    (h : r.renderExpression x scope = .error e) :
    e = .badNumber ∨ ∃ name v arguments, r.filters.apply name v arguments = .error e := by
  rcases error_of_bind h with h | ⟨v, _, h⟩
  · exact .inl (error_of_valueOf h)
  · rcases error_of_bind h with h | ⟨w, _, h⟩
    · exact .inr (error_of_applyFilters h)
    · rcases error_of_bind h with h | ⟨s, _, h⟩
      · exact .inl (Filter.error_of_shownText h)
      · cases h

/-- What is so of the failures of filters, and of a bad number, is so of those of expressions. -/
theorem failure_of_renderExpression {kind : Failure → Prop}
    (hf : ∀ name v arguments e, r.filters.apply name v arguments = .error e → kind e)
    (hbad : kind .badNumber) {x : Expression} {scope : Scope} {e : Failure}
    (h : r.renderExpression x scope = .error e) : kind e := by
  rcases error_of_renderExpression h with rfl | ⟨name, v, arguments, h⟩
  · exact hbad
  · exact hf name v arguments e h

theorem error_of_read {source : String} {name : Option String} {e : Failure}
    (h : r.read source name = .error e) :
    e = .template ⟨.oversized source.length r.maxTemplateSize, name⟩ ∨
      ∃ flaw, e = .template ⟨.flaw flaw, name⟩ := by
  unfold read at h
  split at h
  · cases h
    exact .inl rfl
  · split at h
    · cases h
    · rename_i flaw _
      cases h
      exact .inr ⟨flaw, rfl⟩

theorem error_of_descend {frame : Frame} {e : Failure} (h : r.descend frame = .error e) :
    e = faultIn frame (.tooDeep r.maxDepth) := by
  unfold descend at h
  split at h
  · cases h
    rfl
  · cases h

/-- A template that is entered in vain is being expanded, or is missing, or lies too deep, or has a
source that is no template. -/
theorem error_of_enter {frame : Frame} {role : Role} {name : String} {e : Failure}
    (h : r.enter frame role name = .error e) :
    (name ∈ frame.stack ∧ e = faultIn frame (.cycle role (frame.stack ++ [name]))) ∨
      (r.source? name = none ∧ e = faultIn frame (.missing role name)) ∨
      e = faultIn frame (.tooDeep r.maxDepth) ∨
      ∃ source, r.source? name = some source ∧ r.read source (some name) = .error e := by
  unfold enter at h
  split at h
  · rename_i hm
    cases h
    exact .inl ⟨hm, rfl⟩
  · split at h
    · rename_i hn
      cases h
      exact .inr (.inl ⟨hn, rfl⟩)
    · rename_i source hs
      rcases error_of_bind h with h | ⟨_, _, h⟩
      · exact .inr (.inr (.inl (error_of_descend h)))
      · exact .inr (.inr (.inr ⟨source, hs, h⟩))

theorem error_of_scopeOf {now : Moment} {context : Value} {e : Failure}
    (h : scopeOf now context = .error e) :
    e = .badNumber ∨ e = .template ⟨.contextNotMap, none⟩ := by
  unfold scopeOf at h
  split at h
  · cases h
  · split at h
    · cases h
      exact .inl rfl
    · cases h
    · cases h
      exact .inr rfl

/-- A template is rendered in vain before its tree is known, or in its tree. -/
theorem error_of_renderTemplate {now : Moment} {name : String} {context : Value} {e : Failure}
    (h : r.renderTemplate now name context = .error e) :
    (r.source? name = none ∧ e = .template ⟨.missing .root name, none⟩) ∨
      scopeOf now context = .error e ∨
      (∃ source, r.source? name = some source ∧ r.read source (some name) = .error e) ∨
      ∃ scope nodes, r.tree? name = some nodes ∧
        r.renderIn { stack := [name], name := some name } scope nodes = .error e := by
  unfold renderTemplate at h
  split at h
  · rename_i hn
    cases h
    exact .inl ⟨hn, rfl⟩
  · rename_i source hs
    rcases error_of_bind h with h | ⟨scope, -, h⟩
    · exact .inr (.inl h)
    rcases error_of_bind h with h | ⟨nodes, hread, h⟩
    · exact .inr (.inr (.inl ⟨source, hs, h⟩))
    · exact .inr (.inr (.inr ⟨scope, nodes, tree?_eq_some_iff.2 ⟨source, hs, hread⟩, h⟩))

end Renderer

end SiteTemplates
