import SiteTemplates.Filter
import SiteTemplates.Template.Node
import SiteTemplates.Template.Store
import SiteTemplates.Value.Closed
import SiteTemplates.Value.Path

/-!
# Rendering

Rendering goes through a tree with a scope, which says what names mean, and a frame, which says
where in the expansion of templates the tree stands.  Loops, partials and layouts lead one level
deeper, and the depth of levels is limited.  A partial starts without overrides; a layout takes the
fillings of the template that extends it, below those of the templates before it.

Three recursions are inside one another: `renderNode` follows the tree, `renderLevel` counts how
often the tree may be left for the body of an override on one level, and `renderBelow` counts the
levels that are left.  On one level a name whose body is being rendered cannot be needed again
unless blocks refer to one another in a circle, so the number of overrides is enough for the second
count.
-/

namespace SiteTemplates

/-- What names mean: the entries of a context. -/
abbrev Scope := List (Value × Value)

/-- The text that is rendered, or why there is none. -/
abbrev Outcome := Except Failure String

/-- The filters and the limits of rendering. -/
structure RenderSettings where
  filters : FilterRegistry
  maxTemplateSize : Int
  maxDepth : Int

/-- What rendering depends on besides the template and its context. -/
structure Renderer extends RenderSettings where
  source? : String → Option String

/-- Where in the expansion of templates a tree stands: how many loops, partials and layouts are
around it, the templates that are being expanded, the outermost first, and the bodies that fill
blocks, of which the first one for a name counts. -/
structure Frame where
  depth : Nat := 0
  stack : List String := []
  overrides : List (String × List Node) := []
  name : Option String := none

/-- The ways out of a tree: to the body of an override in the same frame, and to a tree that lies
one level deeper, if there is such a level. -/
structure Beyond where
  override : Scope → List Node → Outcome
  deeper : Option (Frame → Scope → List Node → Outcome)

namespace Renderer

def faultIn (frame : Frame) (fault : Fault) : Failure := .template ⟨fault, frame.name⟩

def read (r : Renderer) (source : String) (name : Option String) : Except Failure (List Node) :=
  if r.maxTemplateSize < source.length then
    .error (.template ⟨.oversized source.length r.maxTemplateSize, name⟩)
  else
    match Node.ofSource source.toList r.maxDepth with
    | .ok nodes => .ok nodes
    | .error flaw => .error (.template ⟨.flaw flaw, name⟩)

def valueOf (path : String) (scope : Scope) : Except Failure Value :=
  match Value.resolve? path scope with
  | some v => .ok v
  | none => .error .badNumber

def applyFilters (r : Renderer) (v : Value) : List FilterCall → Except Failure Value
  | [] => .ok v
  | f :: rest =>
    match r.filters.apply f.name v f.arguments with
    | .ok w => r.applyFilters w rest
    | .error e => .error e

def renderExpression (r : Renderer) (e : Expression) (scope : Scope) : Outcome := do
  let v ← valueOf e.path scope
  let w ← r.applyFilters v e.filters
  let s ← Filter.shownText w
  return String.ofList s

def loopFrame (frame : Frame) : Frame := { frame with depth := frame.depth + 1 }

def templateFrame (frame : Frame) (name : String) (overrides : List (String × List Node)) : Frame :=
  ⟨frame.depth + 1, frame.stack ++ [name], overrides, some name⟩

def renderItems (go : Scope → List Node → Outcome) (scope : Scope) (body : List Node)
    (done : String) : List Value → Outcome
  | [] => .ok done
  | item :: rest =>
    match go (Value.loopScope scope item) body with
    | .ok s => renderItems go scope body (done ++ s) rest
    | .error e => .error e

/-- Renders a loop.  What is no list, or an empty one, gives no text. -/
def renderEach (r : Renderer) (beyond : Beyond) (frame : Frame) (scope : Scope) (path : String)
    (body : List Node) : Outcome := do
  match ← valueOf path scope with
  | .list [] => return ""
  | .list items =>
    match beyond.deeper with
    | none => .error (faultIn frame (.tooDeep r.maxDepth))
    | some go => renderItems (go (loopFrame frame)) scope body "" items
  | _ => return ""

/-- Renders the template of a name in its role, with overrides. -/
def renderNamed (r : Renderer) (beyond : Beyond) (frame : Frame) (scope : Scope) (role : Role)
    (name : String) (overrides : List (String × List Node)) : Outcome :=
  if name ∈ frame.stack then .error (faultIn frame (.cycle role (frame.stack ++ [name])))
  else
    match r.source? name with
    | none => .error (faultIn frame (.missing role name))
    | some source =>
      match beyond.deeper with
      | none => .error (faultIn frame (.tooDeep r.maxDepth))
      | some go => do
        let nodes ← r.read source (some name)
        go (templateFrame frame name overrides) scope nodes

mutual

def renderNode (r : Renderer) (beyond : Beyond) (frame : Frame) (scope : Scope) : Node → Outcome
  | .text s => .ok s
  | .variable e => r.renderExpression e scope
  | .conditional path negated body alternative =>
    match valueOf path scope with
    | .error e => .error e
    | .ok v =>
      if v.isTrue != negated then renderNodes r beyond frame scope "" body
      else renderNodes r beyond frame scope "" alternative
  | .each path body => r.renderEach beyond frame scope path body
  | .part name => r.renderNamed beyond frame scope .part name []
  | .block name body =>
    match frame.overrides.lookup name with
    | some filling => beyond.override scope filling
    | none => renderNodes r beyond frame scope "" body
  | .layout name fillings =>
    r.renderNamed beyond frame scope .layout name (frame.overrides ++ fillings.reverse)

/-- Renders nodes one after the other, after the text `done` so far. -/
def renderNodes (r : Renderer) (beyond : Beyond) (frame : Frame) (scope : Scope) (done : String) :
    List Node → Outcome
  | [] => .ok done
  | n :: rest =>
    match renderNode r beyond frame scope n with
    | .ok s => renderNodes r beyond frame scope (done ++ s) rest
    | .error e => .error e

end

/-- Renders on one level, where the tree may be left so often for the body of an override. -/
def renderLevel (r : Renderer) (deeper : Option (Frame → Scope → List Node → Outcome))
    (frame : Frame) : Nat → Scope → List Node → Outcome
  | 0, scope, nodes => r.renderNodes ⟨fun _ _ => .error .endless, deeper⟩ frame scope "" nodes
  | n + 1, scope, nodes => r.renderNodes ⟨r.renderLevel deeper frame n, deeper⟩ frame scope "" nodes

def renderBelow (r : Renderer) : Nat → Frame → Scope → List Node → Outcome
  | 0, frame, scope, nodes => r.renderLevel none frame frame.overrides.length scope nodes
  | n + 1, frame, scope, nodes =>
    r.renderLevel (some (r.renderBelow n)) frame frame.overrides.length scope nodes

def renderIn (r : Renderer) (frame : Frame) (scope : Scope) (nodes : List Node) : Outcome :=
  r.renderBelow (r.maxDepth - frame.depth).toNat frame scope nodes

/-! ### Contexts -/

/-- Whether a value stands for a context without entries. -/
def standsForNoContext : Value → Bool
  | .null | .bool false | .bytes [] | .list [] | .tuple [] | .set [] | .map [] => true
  | .int n => n == 0
  | .real x => x.isZero
  | .text s => s.isEmpty
  | _ => false

/-- The scope that a context gives, at a given time. -/
def scopeOf (now : Moment) (context : Value) : Except Failure Scope :=
  if standsForNoContext context then .ok []
  else
    match context.close? now with
    | none => .error .badNumber
    | some (.map entries) => .ok entries
    | some _ => .error (.template ⟨.contextNotMap, none⟩)

def render (r : Renderer) (now : Moment) (source : String) (context : Value) : Outcome := do
  let scope ← scopeOf now context
  let nodes ← r.read source none
  r.renderIn {} scope nodes

def renderTemplate (r : Renderer) (now : Moment) (name : String) (context : Value) : Outcome :=
  match r.source? name with
  | none => .error (.template ⟨.missing .root name, none⟩)
  | some source => do
    let scope ← scopeOf now context
    let nodes ← r.read source (some name)
    r.renderIn { stack := [name], name := some name } scope nodes

end Renderer

end SiteTemplates
