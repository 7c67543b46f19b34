import SiteTemplates.Render.Renderer

/-!
# Rendering level by level

`Renderer.renderBelow` counts the levels that are left, so that it ends.  Seen from a frame the
count is no more than the limit: a level deeper is a rendering in the deeper frame, unless the
frame has reached the limit.  Here loops, partials and layouts get equations that say so and do not
count, with `Renderer.descend` for the limit and `Renderer.enter` for all that happens before the
tree of another template is rendered.
-/

namespace SiteTemplates

/-- The built-in filters, and the limits that hold unless others are set. -/
def RenderSettings.usual : RenderSettings :=
  ⟨.builtin, defaultMaxTemplateSize, Node.defaultMaxDepth⟩

namespace Renderer

variable (r : Renderer)

def descend (frame : Frame) : Except Failure Unit :=
  if r.maxDepth ≤ frame.depth then .error (faultIn frame (.tooDeep r.maxDepth)) else .ok ()

/-- The tree of the template that a frame asks for by its name, in a role. -/
def enter (frame : Frame) (role : Role) (name : String) : Except Failure (List Node) :=
  if name ∈ frame.stack then .error (faultIn frame (.cycle role (frame.stack ++ [name])))
  else
    match r.source? name with
    | none => .error (faultIn frame (.missing role name))
    | some source => do
      r.descend frame
      r.read source (some name)

/-- The tree of the template of a name, if it is there and its source is a template. -/
def tree? (name : String) : Option (List Node) :=
  (r.source? name).bind (fun source => (r.read source (some name)).toOption)

/-- How a tree is rendered one level below a frame, if there is such a level. -/
def deeper? (frame : Frame) : Option (Frame → Scope → List Node → Outcome) :=
  match (r.maxDepth - frame.depth).toNat with
  | 0 => none
  | n + 1 => some (r.renderBelow n)

variable {r}

/-! ### The recursions as sequences of steps -/

theorem renderItems_cons (go : Scope → List Node → Outcome) (scope : Scope) (body : List Node)
    (done : String) (item : Value) (rest : List Value) :
    renderItems go scope body done (item :: rest) = (do
      let s ← go (Value.loopScope scope item) body
      renderItems go scope body (done ++ s) rest) := by
  cases h : go (Value.loopScope scope item) body <;> simp only [renderItems, h] <;> rfl

theorem renderNodes_cons (beyond : Beyond) (frame : Frame) (scope : Scope) (done : String)
    (n : Node) (rest : List Node) :
    r.renderNodes beyond frame scope done (n :: rest) = (do
      let s ← r.renderNode beyond frame scope n
      r.renderNodes beyond frame scope (done ++ s) rest) := by
  cases h : r.renderNode beyond frame scope n <;> simp only [renderNodes, h] <;> rfl

theorem renderNode_conditional (beyond : Beyond) (frame : Frame) (scope : Scope) (path : String)
    (negated : Bool) (body alternative : List Node) :
    r.renderNode beyond frame scope (.conditional path negated body alternative) = (do
      let v ← valueOf path scope
      r.renderNodes beyond frame scope "" (if v.isTrue != negated then body else alternative)) := by
  cases h : valueOf path scope with
  | error e =>
    simp only [renderNode, h]
    rfl
  | ok v =>
    simp only [renderNode, h]
    cases hv : v.isTrue != negated <;> simp only [bind, Except.bind, hv] <;> rfl

theorem renderNode_block (beyond : Beyond) (frame : Frame) (scope : Scope) (name : String)
    (body : List Node) :
    r.renderNode beyond frame scope (.block name body) =
      match frame.overrides.lookup name with
      | some filling => beyond.override scope filling
      | none => r.renderNodes beyond frame scope "" body := by
  cases h : frame.overrides.lookup name <;> simp only [renderNode, h]

/-! ### Levels -/

theorem renderIn_eq (frame : Frame) (scope : Scope) (nodes : List Node) :
    r.renderIn frame scope nodes =
      r.renderLevel (r.deeper? frame) frame frame.overrides.length scope nodes := by
  unfold renderIn deeper?
  cases (r.maxDepth - frame.depth).toNat <;> rfl

theorem descend_eq_ok_iff {frame : Frame} :
    r.descend frame = .ok () ↔ (frame.depth : Int) < r.maxDepth := by
  unfold descend
  split
  · simp only [reduceCtorEq, false_iff]
    omega
  · simp only [true_iff]
    omega

theorem deeper?_eq_none {frame : Frame} (h : r.maxDepth ≤ frame.depth) :
    r.deeper? frame = none := by
  have hn : (r.maxDepth - frame.depth).toNat = 0 := by omega
  simp only [deeper?, hn]

theorem exists_deeper? {frame : Frame} (h : ¬ r.maxDepth ≤ frame.depth) :
    ∃ go, r.deeper? frame = some go ∧
      ∀ inner : Frame, inner.depth = frame.depth + 1 → go inner = r.renderIn inner := by
  obtain ⟨n, hn⟩ : ∃ n, (r.maxDepth - frame.depth).toNat = n + 1 :=
    ⟨(r.maxDepth - frame.depth).toNat - 1, by omega⟩
  refine ⟨r.renderBelow n, by simp only [deeper?, hn], fun inner hi => ?_⟩
  have hb : (r.maxDepth - inner.depth).toNat = n := by omega
  funext scope nodes
  rw [renderIn, hb]

theorem renderEach_eq (override : Scope → List Node → Outcome) (frame : Frame) (scope : Scope)
    (path : String) (body : List Node) :
    r.renderEach ⟨override, r.deeper? frame⟩ frame scope path body = (do
      match ← valueOf path scope with
      | .list [] => return ""
      | .list items =>
        r.descend frame
        renderItems (r.renderIn (loopFrame frame)) scope body "" items
      | _ => return "") := by
  unfold renderEach descend
  by_cases h : r.maxDepth ≤ frame.depth
  · rw [deeper?_eq_none h, if_pos h]
    rfl
  · obtain ⟨go, hgo, hin⟩ := exists_deeper? h
    rw [hgo, if_neg h, ← hin (loopFrame frame) rfl]
    rfl

theorem renderNamed_eq (override : Scope → List Node → Outcome) (frame : Frame) (scope : Scope)
    (role : Role) (name : String) (overrides : List (String × List Node)) :
    r.renderNamed ⟨override, r.deeper? frame⟩ frame scope role name overrides = (do
      let nodes ← r.enter frame role name
      r.renderIn (templateFrame frame name overrides) scope nodes) := by
  unfold renderNamed enter
  split
  · rfl
  · cases r.source? name with
    | none => rfl
    | some source =>
      unfold descend
      by_cases h : r.maxDepth ≤ frame.depth
      · rw [deeper?_eq_none h, if_pos h]
        rfl
      · obtain ⟨go, hgo, hin⟩ := exists_deeper? h
        rw [hgo, if_neg h, ← hin (templateFrame frame name overrides) rfl]
        rfl

/-! ### Trees of templates -/

/-- What reading a source takes: it is no longer than the limit and it is a template. -/
theorem read_eq_ok_iff {source : String} {name : Option String} {nodes : List Node} :
    r.read source name = .ok nodes ↔
      (source.length : Int) ≤ r.maxTemplateSize ∧
        Node.ofSource source.toList r.maxDepth = .ok nodes := by
  unfold read
  split
  · simp only [reduceCtorEq, false_iff, not_and]
    omega
  · rename_i h
    rw [and_iff_right (Int.not_lt.1 h)]
    cases Node.ofSource source.toList r.maxDepth <;> simp

theorem tree?_eq_some_iff {name : String} {nodes : List Node} :
    r.tree? name = some nodes ↔
      ∃ source, r.source? name = some source ∧ r.read source (some name) = .ok nodes := by
  unfold tree?
  cases r.source? name with
  | none => simp
  | some source =>
    cases h : r.read source (some name) with
    | ok nodes' => simp [h, Except.toOption]
    | error e => simp [h, Except.toOption]

theorem tree?_eq_none {name : String} (h : r.source? name = none) : r.tree? name = none := by
  unfold tree?
  rw [h]
  rfl

/-- What entering a template takes: it is not being expanded, there is a level left, and it is there
with a source that is a template. -/
theorem enter_eq_ok_iff {frame : Frame} {role : Role} {name : String} {nodes : List Node} :
    r.enter frame role name = .ok nodes ↔
      name ∉ frame.stack ∧ (frame.depth : Int) < r.maxDepth ∧ r.tree? name = some nodes := by
  rw [tree?_eq_some_iff, ← descend_eq_ok_iff]
  unfold enter
  by_cases hs : name ∈ frame.stack
  · simp [hs]
  · cases hr : r.source? name with
    | none => simp [hs]
    | some source => cases hd : r.descend frame <;> simp [hs, bind, Except.bind]

theorem renderTemplate_of_tree? {now : Moment} {name : String} {context : Value} {scope : Scope}
    {nodes : List Node} (hs : scopeOf now context = .ok scope) (ht : r.tree? name = some nodes) :
    r.renderTemplate now name context =
      r.renderIn { stack := [name], name := some name } scope nodes := by
  obtain ⟨source, hsource, hread⟩ := tree?_eq_some_iff.1 ht
  simp only [renderTemplate, hsource, hs, hread]
  rfl

/-- What rendering a template takes: its context gives a scope, it is there with a source that is a
template, and its tree is rendered in the outermost frame. -/
theorem renderTemplate_eq_ok_iff {now : Moment} {name : String} {context : Value} {text : String} :
    r.renderTemplate now name context = .ok text ↔
      ∃ scope nodes, scopeOf now context = .ok scope ∧ r.tree? name = some nodes ∧
        r.renderIn { stack := [name], name := some name } scope nodes = .ok text := by
  constructor
  · intro h
    unfold renderTemplate at h
    split at h
    · cases h
    · rename_i source hsource
      cases hs : scopeOf now context with
      | error e => simp [hs, bind, Except.bind] at h
      | ok scope =>
        cases hread : r.read source (some name) with
        | error e => simp [hs, hread, bind, Except.bind] at h
        | ok nodes =>
          have ht := tree?_eq_some_iff.2 ⟨source, hsource, hread⟩
          simp only [hs, hread, bind, Except.bind] at h
          exact ⟨scope, nodes, rfl, ht, h⟩
  · rintro ⟨scope, nodes, hs, ht, h⟩
    rw [renderTemplate_of_tree? hs ht, h]

/-! ### Stores that are written down -/

/-- The renderer with the usual settings that finds these templates. -/
def ofTemplates (templates : List (String × String)) : Renderer :=
  { RenderSettings.usual with source? := fun name => templates.lookup name }

theorem tree?_ofTemplates {templates : List (String × String)} {name source : String}
    {nodes : List Node} (hs : templates.lookup name = some source)
    (hl : (source.length : Int) ≤ defaultMaxTemplateSize)
    (hn : Node.ofSource source.toList Node.defaultMaxDepth = .ok nodes) :
    (ofTemplates templates).tree? name = some nodes :=
  tree?_eq_some_iff.2 ⟨source, hs, read_eq_ok_iff.2 ⟨hl, hn⟩⟩

end Renderer

end SiteTemplates
