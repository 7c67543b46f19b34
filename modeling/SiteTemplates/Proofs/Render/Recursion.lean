import SiteTemplates.Proofs.Render.Simulation

/-!
# The equations of rendering

Rendering counts levels and, on a level, how often it is left for a filling.  Neither count plays a
part in what comes out, and here they are gone: `renderIn_cons` to `renderIn_layout` say what is
rendered for each node in terms of rendering itself.  A block is rendered as its filling or as its
default (`renderIn_block`), a loop, a part and a layout in frames one level deeper.

What may be asked for is a source or the template of a name, a `Request`.  Either way rendering is
the same once the scope and the tree are known (`answer_eq`).
-/

namespace SiteTemplates

namespace Renderer

/-! ### One after the other -/

/-- The texts of all members, joined, up to the first failure. -/
def joined {α : Type} (go : α → Outcome) : List α → Outcome
  | [] => .ok ""
  | a :: rest => do
    let t ← go a
    let u ← joined go rest
    return t ++ u

theorem joined_append {α : Type} (go : α → Outcome) (as bs : List α) :
    joined go (as ++ bs) = (do
      let t ← joined go as
      let u ← joined go bs
      return t ++ u) := by
  induction as with
  | nil =>
    rw [List.nil_append, joined]
    cases joined go bs with
    | error e => rfl
    | ok u => exact congrArg Except.ok String.empty_append.symm
  | cons a as ih =>
    rw [List.cons_append, joined, joined, ih]
    cases go a with
    | error e => rfl
    | ok t =>
      cases joined go as with
      | error e => rfl
      | ok u =>
        cases joined go bs with
        | error e => rfl
        | ok w => exact congrArg Except.ok String.append_assoc.symm

/-- What goes on after a text that is there already, joined to that text. -/
theorem map_joined_cons {α : Type} (go : α → Outcome) (done : String) (a : α) (as : List α) :
    (joined go (a :: as)).map (done ++ ·) = (do
      let t ← go a
      (joined go as).map (done ++ t ++ ·)) := by
  rw [joined]
  cases go a with
  | error e => rfl
  | ok t =>
    cases joined go as with
    | error e => rfl
    | ok u => exact congrArg Except.ok String.append_assoc.symm

variable {r : Renderer} {f : Frame} {s : Scope}

theorem renderNodes_eq (beyond : Beyond) (done : String) (ns : List Node) :
    r.renderNodes beyond f s done ns =
      (joined (r.renderNode beyond f s) ns).map (done ++ ·) := by
  induction ns generalizing done with
  | nil => exact congrArg Except.ok String.append_empty.symm
  | cons n ns ih => simp only [renderNodes_cons, map_joined_cons, ih]

theorem renderItems_eq (go : Scope → List Node → Outcome) (body : List Node) (done : String)
    (items : List Value) :
    renderItems go s body done items =
      (joined (fun item => go (Value.loopScope s item) body) items).map (done ++ ·) := by
  induction items generalizing done with
  | nil => exact congrArg Except.ok String.append_empty.symm
  | cons item items ih => simp only [renderItems_cons, map_joined_cons, ih]

theorem map_empty_append (x : Outcome) : x.map ("" ++ ·) = x := by
  cases x with
  | error e => rfl
  | ok t => exact congrArg Except.ok String.empty_append

/-- A tree is rendered node by node, where fillings are rendered the same way. -/
theorem renderIn_eq_joined (ns : List Node) :
    r.renderIn f s ns = joined (r.renderNode ⟨r.renderIn f, r.deeper? f⟩ f s) ns := by
  have hlevel : r.renderLevel (r.deeper? f) f f.overrides.length = r.renderIn f := by
    funext s ns
    exact (renderIn_eq f s ns).symm
  rw [← renderLevel_of_length_le (Nat.le_succ f.overrides.length), renderLevel_eq, ← hlevel,
    renderNodes_eq, map_empty_append]
  rfl

theorem renderIn_nil : r.renderIn f s [] = .ok "" := renderIn_eq_joined []

theorem renderIn_append (xs ys : List Node) :
    r.renderIn f s (xs ++ ys) = (do
      let t ← r.renderIn f s xs
      let u ← r.renderIn f s ys
      return t ++ u) := by
  simp only [renderIn_eq_joined, joined_append]

theorem renderIn_cons (x : Node) (ns : List Node) :
    r.renderIn f s (x :: ns) = (do
      let t ← r.renderIn f s [x]
      let u ← r.renderIn f s ns
      return t ++ u) :=
  renderIn_append [x] ns

/-! ### Single nodes -/

theorem renderIn_singleton (x : Node) :
    r.renderIn f s [x] = r.renderNode ⟨r.renderIn f, r.deeper? f⟩ f s x := by
  rw [renderIn_eq_joined, joined, joined]
  cases r.renderNode ⟨r.renderIn f, r.deeper? f⟩ f s x with
  | error e => rfl
  | ok t => exact congrArg Except.ok String.append_empty

theorem renderIn_text (t : String) : r.renderIn f s [.text t] = .ok t := by
  rw [renderIn_singleton, renderNode]

theorem renderIn_variable (e : Expression) :
    r.renderIn f s [.variable e] = r.renderExpression e s := by
  rw [renderIn_singleton, renderNode]

theorem renderIn_conditional (path : String) (negated : Bool) (body alternative : List Node) :
    r.renderIn f s [.conditional path negated body alternative] = (do
      let v ← valueOf path s
      r.renderIn f s (if v.isTrue != negated then body else alternative)) := by
  rw [renderIn_singleton, renderNode_conditional]
  simp only [renderNodes_eq, map_empty_append, renderIn_eq_joined]

def itemsOf : Value → List Value
  | .list items => items
  | _ => []

theorem renderIn_each (path : String) (body : List Node) :
    r.renderIn f s [.each path body] = (do
      let v ← valueOf path s
      if itemsOf v = [] then return ""
      else
        r.descend f
        joined (fun item => r.renderIn (loopFrame f) (Value.loopScope s item) body)
          (itemsOf v)) := by
  rw [renderIn_singleton, renderNode, renderEach_eq]
  refine congrArg _ (funext fun v => ?_)
  simp only [renderItems_eq, map_empty_append]
  split
  · rfl
  · rename_i items hne
    exact (if_neg fun he => hne he).symm
  · rename_i hlist
    have hnone : itemsOf v = [] := by
      cases v with
      | list items => exact absurd rfl (hlist items)
      | _ => rfl
    rw [if_pos hnone]

theorem renderIn_part (name : String) :
    r.renderIn f s [.part name] = (do
      let ns ← r.enter f .part name
      r.renderIn (templateFrame f name []) s ns) := by
  rw [renderIn_singleton, renderNode, renderNamed_eq]

theorem renderIn_block (name : String) (body : List Node) :
    r.renderIn f s [.block name body] =
      r.renderIn f s ((f.overrides.lookup name).getD body) := by
  rw [renderIn_singleton, renderNode_block]
  cases f.overrides.lookup name with
  | some filling => rfl
  | none =>
    show r.renderNodes _ f s "" body = r.renderIn f s body
    rw [renderNodes_eq, map_empty_append, renderIn_eq_joined]

theorem renderIn_layout (name : String) (fillings : List (String × List Node)) :
    r.renderIn f s [.layout name fillings] = (do
      let ns ← r.enter f .layout name
      r.renderIn (templateFrame f name (f.overrides ++ fillings.reverse)) s ns) := by
  rw [renderIn_singleton, renderNode, renderNamed_eq]

end Renderer

/-! ### Requests -/

inductive Request where
  | source (text : String)
  | template (name : String)

/-- The frame in which the tree of a request is rendered. -/
def Request.frame : Request → Frame
  | .source _ => {}
  | .template name => { stack := [name], name := some name }

namespace Renderer

variable (r : Renderer)

/-- Renders what is requested. -/
def answer (now : Moment) (context : Value) : Request → Outcome
  | .source text => r.render now text context
  | .template name => r.renderTemplate now name context

/-- The tree of the source that is asked for, or of the template of the name. -/
def rootTree : Request → Except Failure (List Node)
  | .source text => r.read text none
  | .template name =>
    match r.source? name with
    | none => .error (.template ⟨.missing .root name, none⟩)
    | some text => r.read text (some name)

def scopeAndTree (now : Moment) (context : Value) (text : String) (name : Option String) :
    Except Failure (Scope × List Node) := do
  let scope ← scopeOf now context
  let nodes ← r.read text name
  return (scope, nodes)

def prepare (now : Moment) (context : Value) : Request → Except Failure (Scope × List Node)
  | .source text => r.scopeAndTree now context text none
  | .template name =>
    match r.source? name with
    | none => .error (.template ⟨.missing .root name, none⟩)
    | some text => r.scopeAndTree now context text (some name)

theorem answer_eq (now : Moment) (context : Value) (q : Request) :
    r.answer now context q = (do
      let (scope, nodes) ← r.prepare now context q
      r.renderIn q.frame scope nodes) := by
  cases q with
  | source text =>
    simp only [answer, render, prepare, scopeAndTree, bind, Except.bind]
    cases scopeOf now context with
    | error e => rfl
    | ok scope => cases r.read text none <;> rfl
  | template name =>
    simp only [answer, renderTemplate, prepare]
    cases r.source? name with
    | none => rfl
    | some text =>
      simp only [scopeAndTree, bind, Except.bind]
      cases scopeOf now context with
      | error e => rfl
      | ok scope => cases r.read text (some name) <;> rfl

variable {r}

theorem renderTemplate_eq_of_tree? {name : String} {nodes : List Node}
    (ht : r.tree? name = some nodes) (now : Moment) (context : Value) :
    r.renderTemplate now name context = (do
      let scope ← scopeOf now context
      r.renderIn { stack := [name], name := some name } scope nodes) := by
  obtain ⟨source, hsource, hread⟩ := tree?_eq_some_iff.1 ht
  simp only [renderTemplate, hsource, hread]
  rfl

variable {now : Moment} {context : Value} {q : Request} {scope : Scope} {nodes : List Node}

theorem prepare_of_scopeOf (hs : scopeOf now context = .ok scope) (q : Request) :
    r.prepare now context q = (do
      let nodes ← r.rootTree q
      return (scope, nodes)) := by
  cases q with
  | source text =>
    simp only [prepare, scopeAndTree, hs]
    rfl
  | template name =>
    simp only [prepare, scopeAndTree, hs, rootTree]
    cases r.source? name <;> rfl

theorem prepare_eq_ok (h : r.prepare now context q = .ok (scope, nodes)) :
    scopeOf now context = .ok scope ∧ r.rootTree q = .ok nodes := by
  cases hs : scopeOf now context with
  | error e =>
    cases q with
    | source text => simp [prepare, scopeAndTree, hs, bind, Except.bind] at h
    | template name =>
      cases hsource : r.source? name <;>
        simp [prepare, scopeAndTree, hs, hsource, bind, Except.bind] at h
  | ok scope' =>
    rw [prepare_of_scopeOf hs] at h
    cases ht : r.rootTree q with
    | error e =>
      rw [ht] at h
      cases h
    | ok nodes' =>
      rw [ht] at h
      cases h
      exact ⟨rfl, rfl⟩

theorem prepare_of_tree? {name : String} (hs : scopeOf now context = .ok scope)
    (ht : r.tree? name = some nodes) :
    r.prepare now context (.template name) = .ok (scope, nodes) := by
  obtain ⟨source, hsource, hread⟩ := tree?_eq_some_iff.1 ht
  simp only [prepare, scopeAndTree, hsource, hs, hread]
  rfl

end Renderer

end SiteTemplates
