import SiteTemplates.Template.Fault
import SiteTemplates.Template.Node

/-!
# What a tree shows and asks for

Parts and layouts are where a tree asks for other templates.  Which of them are reached depends on
data, but also on the overrides in force: a block shows the filling for its name, if there is one,
and its default otherwise.  `Within` and `Shown` follow the overrides and leave the data aside.
`Node.references` leaves both aside, and so does `Contains`, which holds of every node that is
written in a tree, fillings included.
-/

namespace SiteTemplates

/-- A node stands directly in another one where the overrides are these: a block shows the filling
for its name, if there is one, and its default otherwise. -/
inductive Within (overrides : List (String × List Node)) : Node → Node → Prop
  | body {path : String} {negated : Bool} {body alternative : List Node} {x : Node}
      (h : x ∈ body) : Within overrides (.conditional path negated body alternative) x
  | alternative {path : String} {negated : Bool} {body alternative : List Node} {x : Node}
      (h : x ∈ alternative) : Within overrides (.conditional path negated body alternative) x
  | item {path : String} {body : List Node} {x : Node} (h : x ∈ body) :
      Within overrides (.each path body) x
  | default {name : String} {body : List Node} {x : Node} (hl : overrides.lookup name = none)
      (h : x ∈ body) : Within overrides (.block name body) x
  | filling {name : String} {body filling : List Node} {x : Node}
      (hl : overrides.lookup name = some filling) (h : x ∈ filling) :
      Within overrides (.block name body) x

/-- A node asks for the template of a name in a role, to be rendered with the last overrides, where
the first ones are in force. -/
inductive Asks (overrides : List (String × List Node)) :
    Node → Role → String → List (String × List Node) → Prop
  | part (name : String) : Asks overrides (.part name) .part name []
  | layout (name : String) (fillings : List (String × List Node)) :
      Asks overrides (.layout name fillings) .layout name (overrides ++ fillings.reverse)

/-- Two lists of fillings give every block the same one. -/
def SameFillings (es es' : List (String × List Node)) : Prop :=
  ∀ name, es.lookup name = es'.lookup name

theorem SameFillings.append {es es' : List (String × List Node)} (h : SameFillings es es')
    (fs : List (String × List Node)) : SameFillings (es ++ fs) (es' ++ fs) := by
  intro name
  rw [List.lookup_append, List.lookup_append, h name]

/-- A node goes by the value of a path. -/
inductive Tests : Node → String → Prop
  | conditional (path : String) (negated : Bool) (body alternative : List Node) :
      Tests (.conditional path negated body alternative) path
  | each (path : String) (body : List Node) : Tests (.each path body) path

inductive Reads : Node → String → Prop
  | expression (e : Expression) : Reads (.variable e) e.path
  | test {x : Node} {path : String} (h : Tests x path) : Reads x path

/-- A node comes up in a tree where the overrides are these, at any nesting. -/
inductive Shown (overrides : List (String × List Node)) (nodes : List Node) : Node → Prop
  | top {x : Node} (h : x ∈ nodes) : Shown overrides nodes x
  | within {x y : Node} (h : Shown overrides nodes x) (hw : Within overrides x y) :
      Shown overrides nodes y

namespace Node

mutual

/-- The names of the templates that a node asks for, itself or at any nesting. -/
def references : Node → List String
  | .text _ => []
  | .variable _ => []
  | .conditional _ _ body alternative => referencesAll body ++ referencesAll alternative
  | .each _ body => referencesAll body
  | .part name => [name]
  | .block _ body => referencesAll body
  | .layout name fillings => name :: referencesFilling fillings

/-- The names of the templates that nodes ask for. -/
def referencesAll : List Node → List String
  | [] => []
  | n :: rest => references n ++ referencesAll rest

/-- The names of the templates that the bodies of fillings ask for. -/
def referencesFilling : List (String × List Node) → List String
  | [] => []
  | (_, body) :: rest => referencesAll body ++ referencesFilling rest

end

theorem mem_referencesAll_of_mem {ns : List Node} {x : Node} (hx : x ∈ ns) {m : String}
    (hm : m ∈ x.references) : m ∈ referencesAll ns := by
  induction ns with
  | nil => cases hx
  | cons n rest ih =>
    rw [referencesAll, List.mem_append]
    rcases List.mem_cons.1 hx with rfl | hx
    · exact .inl hm
    · exact .inr (ih hx)

end Node

theorem Asks.mem_references {overrides inner : List (String × List Node)} {x : Node} {role : Role}
    {name : String} (h : Asks overrides x role name inner) : name ∈ x.references := by
  cases h with
  | part => exact List.mem_singleton_self name
  | layout => exact List.mem_cons_self

theorem Asks.eq {overrides inner inner' : List (String × List Node)} {x : Node} {role : Role}
    {name : String} (h : Asks overrides x role name inner)
    (h' : Asks overrides x role name inner') : inner = inner' := by
  cases h <;> cases h' <;> rfl

/-- What is asked for with the same fillings in force comes with the same overrides. -/
theorem Asks.sameFillings {es es' inner inner' : List (String × List Node)} {x : Node} {role : Role}
    {name : String} (h : Asks es x role name inner) (h' : Asks es' x role name inner')
    (hs : SameFillings es es') : SameFillings inner inner' := by
  cases h with
  | part =>
    cases h'
    exact fun _ => rfl
  | layout name fillings =>
    cases h'
    exact hs.append fillings.reverse

theorem mem_of_lookup {es : List (String × List Node)} {name : String} {filling : List Node}
    (h : es.lookup name = some filling) : (name, filling) ∈ es := by
  obtain ⟨before, after, rfl, -⟩ := List.lookup_eq_some_iff.1 h
  exact List.mem_append_right _ List.mem_cons_self

/-- A node that stands in another one by an override stands in that override, and otherwise it
stands there with any overrides that leave the block alone. -/
theorem Within.split {overrides : List (String × List Node)} {x y : Node}
    (h : Within overrides x y) :
    (Within [] x y ∧ ∀ m ∈ y.references, m ∈ x.references) ∨
      ∃ b ∈ overrides, ∀ m ∈ y.references, m ∈ Node.referencesAll b.2 := by
  cases h with
  | body h =>
    exact .inl ⟨.body h, fun m hm =>
      List.mem_append_left _ (Node.mem_referencesAll_of_mem h hm)⟩
  | alternative h =>
    exact .inl ⟨.alternative h, fun m hm =>
      List.mem_append_right _ (Node.mem_referencesAll_of_mem h hm)⟩
  | item h => exact .inl ⟨.item h, fun m hm => Node.mem_referencesAll_of_mem h hm⟩
  | default hl h => exact .inl ⟨.default rfl h, fun m hm => Node.mem_referencesAll_of_mem h hm⟩
  | @filling name body filling _ hl h =>
    have hb : (name, filling) ∈ overrides := mem_of_lookup hl
    exact .inr ⟨(name, filling), hb, fun m hm => Node.mem_referencesAll_of_mem h hm⟩

theorem Shown.of_closed {overrides : List (String × List Node)} {ns : List Node} {x : Node}
    (h : Shown overrides ns x) (p : Node → Prop) (ht : ∀ y ∈ ns, p y)
    (hc : ∀ y z, p y → Within overrides y z → p z) : p x := by
  induction h with
  | top h => exact ht _ h
  | within _ hw ih => exact hc _ _ ih hw

theorem Shown.split {overrides : List (String × List Node)} {ns : List Node} {x : Node}
    (h : Shown overrides ns x) :
    Shown [] ns x ∨ ∃ b ∈ overrides, ∀ m ∈ x.references, m ∈ Node.referencesAll b.2 := by
  induction h with
  | top h => exact .inl (.top h)
  | within _ hw ih =>
    rcases hw.split with ⟨hw, hsub⟩ | hb
    · rcases ih with ih | ⟨b, hb, ih⟩
      · exact .inl (.within ih hw)
      · exact .inr ⟨b, hb, fun m hm => ih m (hsub m hm)⟩
    · exact .inr hb

theorem Shown.mem_references {ns : List Node} {x : Node} (h : Shown [] ns x) {m : String}
    (hm : m ∈ x.references) : m ∈ Node.referencesAll ns := by
  induction h with
  | top h => exact Node.mem_referencesAll_of_mem h hm
  | within _ hw ih =>
    rcases hw.split with ⟨-, hsub⟩ | ⟨b, hb, -⟩
    · exact ih (hsub m hm)
    · cases hb

/-! ### All nodes of a tree -/

/-- The nodes that stand directly in the bodies of a node. -/
def Node.children : Node → List Node
  | .conditional _ _ body alternative => body ++ alternative
  | .each _ body => body
  | .block _ body => body
  | .layout _ fillings => fillings.flatMap Prod.snd
  | _ => []

/-- A node is written in a tree, at any nesting. -/
inductive Contains (nodes : List Node) : Node → Prop
  | top {x : Node} (h : x ∈ nodes) : Contains nodes x
  | child {x y : Node} (h : Contains nodes x) (hy : y ∈ x.children) : Contains nodes y

theorem Contains.of_closed {ns : List Node} {x : Node} (h : Contains ns x) (p : Node → Prop)
    (ht : ∀ y ∈ ns, p y) (hc : ∀ y z, p y → z ∈ y.children → p z) : p x := by
  induction h with
  | top h => exact ht _ h
  | child _ hy ih => exact hc _ _ ih hy

theorem mem_referencesFilling {fillings : List (String × List Node)} {b : String × List Node}
    (hb : b ∈ fillings) {m : String} (hm : m ∈ Node.referencesAll b.2) :
    m ∈ Node.referencesFilling fillings := by
  induction fillings with
  | nil => cases hb
  | cons e rest ih =>
    rw [Node.referencesFilling, List.mem_append]
    rcases List.mem_cons.1 hb with rfl | hb
    · exact .inl hm
    · exact .inr (ih hb)

theorem Node.mem_references_of_child {x y : Node} (hy : y ∈ x.children) {m : String}
    (hm : m ∈ y.references) : m ∈ x.references := by
  cases x with
  | text t => cases hy
  | «variable» e => cases hy
  | part name => cases hy
  | conditional path negated body alternative =>
    rcases List.mem_append.1 hy with hy | hy
    · exact List.mem_append_left _ (mem_referencesAll_of_mem hy hm)
    · exact List.mem_append_right _ (mem_referencesAll_of_mem hy hm)
  | each path body => exact mem_referencesAll_of_mem hy hm
  | block name body => exact mem_referencesAll_of_mem hy hm
  | layout name fillings =>
    obtain ⟨b, hb, hy⟩ := List.mem_flatMap.1 hy
    exact List.mem_cons_of_mem _ (mem_referencesFilling hb (mem_referencesAll_of_mem hy hm))

theorem Contains.mem_references {ns : List Node} {x : Node} (h : Contains ns x) {m : String}
    (hm : m ∈ x.references) : m ∈ Node.referencesAll ns := by
  induction h with
  | top h => exact Node.mem_referencesAll_of_mem h hm
  | child _ hy ih => exact ih (Node.mem_references_of_child hy hm)

/-- A node that stands in another one stands in its bodies, or in an override. -/
theorem Within.mem_children_or {overrides : List (String × List Node)} {x y : Node}
    (h : Within overrides x y) : y ∈ x.children ∨ ∃ b ∈ overrides, y ∈ b.2 := by
  cases h with
  | body h => exact .inl (List.mem_append_left _ h)
  | alternative h => exact .inl (List.mem_append_right _ h)
  | item h => exact .inl h
  | default hl h => exact .inl h
  | @filling name body filling _ hl h =>
    exact .inr ⟨(name, filling), mem_of_lookup hl, h⟩

end SiteTemplates
