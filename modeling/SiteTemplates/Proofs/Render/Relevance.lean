import SiteTemplates.Proofs.Render.Expansion
import SiteTemplates.Proofs.Render.Recursion
import SiteTemplates.Proofs.Render.Stability
import SiteTemplates.Proofs.Value.Scope

/-!
# What a rendering depends on

Two renderings of a request are compared, over stores and in scopes that may differ.  What matters
is read off the trees alone, before anything is rendered: the templates that a request leads to by
what its tree and theirs name (`LeadsTo`), and the first names of the paths in these trees
(`Mentions`).  Stores that agree on the former and scopes that agree on the latter give the same
outcome (`renderIn_eq_of_agree`).

A node that is rendered need not be written in the template whose frame it is in, as fillings are
carried from one template to another.  So the invariant says of a frame and a node that the node,
and all that the fillings of the frame hold, is written somewhere in the trees of the request
(`OccursIn`).  Loops put names over those of the scope, but the same ones on both sides.
-/

namespace SiteTemplates

open Value (lookup? firstName loopScope lookup?_loopScope_congr resolve?_congr)

namespace Renderer

variable {r r' : Renderer} {q : Request}

/-! ### What a request leads to -/

/-- A request leads to a template: it asks for it, or its tree names it, or the tree of a template
does that it leads to. -/
inductive LeadsTo (r : Renderer) (q : Request) : String → Prop
  | root {name : String} (h : q = .template name) : LeadsTo r q name
  | named {ns : List Node} {name : String} (ht : r.rootTree q = .ok ns)
      (hn : name ∈ Node.referencesAll ns) : LeadsTo r q name
  | refers {name other : String} (h : LeadsTo r q name) (hr : r.Refers name other) :
      LeadsTo r q other

/-- The tree of a request or of a template that it leads to. -/
inductive TreeOf (r : Renderer) (q : Request) : List Node → Prop
  | root {ns : List Node} (h : r.rootTree q = .ok ns) : TreeOf r q ns
  | template {name : String} {ns : List Node} (h : r.LeadsTo q name)
      (ht : r.tree? name = some ns) : TreeOf r q ns

/-- A node is written in one of the trees of a request. -/
def Occurs (r : Renderer) (q : Request) (x : Node) : Prop := ∃ ns, r.TreeOf q ns ∧ Contains ns x

/-- A name stands first in a path that is looked up in one of the trees of a request. -/
def Mentions (r : Renderer) (q : Request) (name : String) : Prop :=
  ∃ x path, r.Occurs q x ∧ Reads x path ∧ firstName path = name

theorem TreeOf.occurs {ns : List Node} (h : r.TreeOf q ns) {x : Node} (hx : x ∈ ns) :
    r.Occurs q x :=
  ⟨ns, h, .top hx⟩

theorem Occurs.child {x y : Node} (h : r.Occurs q x) (hy : y ∈ x.children) : r.Occurs q y := by
  obtain ⟨ns, ht, hx⟩ := h
  exact ⟨ns, ht, .child hx hy⟩

theorem Occurs.leadsTo {x : Node} (h : r.Occurs q x) {name : String} (hn : name ∈ x.references) :
    r.LeadsTo q name := by
  obtain ⟨ns, ht, hx⟩ := h
  cases ht with
  | root h => exact .named h (hx.mem_references hn)
  | template h ht => exact .refers h ⟨ns, ht, hx.mem_references hn⟩

theorem Occurs.mentions {x : Node} (h : r.Occurs q x) {path : String} (hr : Reads x path) :
    r.Mentions q (firstName path) :=
  ⟨x, path, h, hr, rfl⟩

/-- A node, and all that the fillings of a frame hold, is written in the trees of a request. -/
structure OccursIn (r : Renderer) (q : Request) (f : Frame) (x : Node) : Prop where
  node : r.Occurs q x
  fillings : ∀ b ∈ f.overrides, ∀ y ∈ b.2, r.Occurs q y

theorem OccursIn.within {f : Frame} {x y : Node} (h : r.OccursIn q f x)
    (hw : Within f.overrides x y) : r.OccursIn q f y := by
  refine ⟨?_, h.fillings⟩
  rcases hw.mem_children_or with hy | ⟨b, hb, hy⟩
  · exact h.node.child hy
  · exact h.fillings b hb y hy

theorem OccursIn.asked {f : Frame} {x : Node} {role : Role} {name : String}
    {overrides : List (String × List Node)} (h : r.OccursIn q f x)
    (ha : Asks f.overrides x role name overrides) :
    ∀ b ∈ overrides, ∀ y ∈ b.2, r.Occurs q y := by
  cases ha with
  | part =>
    intro b hb
    cases hb
  | layout name fillings =>
    intro b hb y hy
    rcases List.mem_append.1 hb with hb | hb
    · exact h.fillings b hb y hy
    · exact h.node.child (List.mem_flatMap.2 ⟨b, List.mem_reverse.1 hb, hy⟩)

theorem OccursIn.template {f : Frame} {x : Node} {role : Role} {name : String}
    {overrides : List (String × List Node)} {ns : List Node} (h : r.OccursIn q f x)
    (ha : Asks f.overrides x role name overrides) (ht : r.tree? name = some ns) {y : Node}
    (hy : y ∈ ns) : r.OccursIn q (templateFrame f name overrides) y where
  node := TreeOf.occurs (.template (h.node.leadsTo ha.mem_references) ht) hy
  fillings := h.asked ha

theorem rootTree_template_iff {name : String} {ns : List Node} :
    r.rootTree (.template name) = .ok ns ↔ r.tree? name = some ns := by
  rw [tree?_eq_some_iff, rootTree]
  cases r.source? name <;> simp

/-- A request for a template leads nowhere that references do not lead to. -/
theorem LeadsTo.of_closed {root name : String} (h : r.LeadsTo (.template root) name)
    (p : String → Prop) (hroot : p root) (hc : ∀ a b, p a → r.Refers a b → p b) : p name := by
  induction h with
  | root h =>
    cases h
    exact hroot
  | named ht hn => exact hc _ _ hroot ⟨_, rootTree_template_iff.1 ht, hn⟩
  | refers _ hr ih => exact hc _ _ ih hr

theorem leadsTo_partFilling {name : String} (h : partFilling.LeadsTo (.template "c") name) :
    name = "c" ∨ name = "l" ∨ name = "p" := by
  refine h.of_closed (fun n => n = "c" ∨ n = "l" ∨ n = "p") (.inl rfl) ?_
  rintro a b (rfl | rfl | rfl) ⟨ns, ht, hb⟩
  · obtain rfl := Option.some.inj (tree?_partFilling_c.symm.trans ht)
    have hb : b ∈ ["l", "p"] := hb
    simpa using Or.inr hb
  · obtain rfl := Option.some.inj (tree?_partFilling_l.symm.trans ht)
    cases hb
  · obtain rfl := Option.some.inj (tree?_partFilling_p.symm.trans ht)
    cases hb

/-! ### Stores that agree -/

/-- Renderers with the same settings that find the same sources, as far as a request leads. -/
structure SameWithin (r r' : Renderer) (q : Request) : Prop where
  settings : r.toRenderSettings = r'.toRenderSettings
  sources : ∀ name, r.LeadsTo q name → r.source? name = r'.source? name

theorem read_congr (h : r.toRenderSettings = r'.toRenderSettings) : r.read = r'.read := by
  obtain ⟨s, source?⟩ := r
  obtain ⟨s', source?'⟩ := r'
  obtain rfl : s = s' := h
  rfl

theorem descend_congr (h : r.toRenderSettings = r'.toRenderSettings) : r.descend = r'.descend := by
  obtain ⟨s, source?⟩ := r
  obtain ⟨s', source?'⟩ := r'
  obtain rfl : s = s' := h
  rfl

theorem enter_congr (h : r.toRenderSettings = r'.toRenderSettings) {name : String}
    (hs : r.source? name = r'.source? name) (f : Frame) (role : Role) :
    r.enter f role name = r'.enter f role name := by
  simp only [enter, hs, descend_congr h, read_congr h]

/-! ### Scopes that agree -/

/-- Two scopes in which every name that a request mentions finds the same. -/
def AgreeOn (r : Renderer) (q : Request) (s s' : Scope) : Prop :=
  ∀ name, r.Mentions q name → lookup? name s = lookup? name s'

theorem valueOf_congr {path : String} {s s' : Scope}
    (h : lookup? (firstName path) s = lookup? (firstName path) s') :
    valueOf path s = valueOf path s' := by
  rw [valueOf, valueOf, resolve?_congr h]

theorem AgreeOn.valueOf_eq {s s' : Scope} (h : r.AgreeOn q s s') {x : Node} {path : String}
    (hx : r.Occurs q x) (hr : Reads x path) : valueOf path s = valueOf path s' :=
  valueOf_congr (h _ (hx.mentions hr))

theorem AgreeOn.renderExpression_eq {s s' : Scope} (h : r.AgreeOn q s s') {e : Expression}
    (he : r.Occurs q (.variable e)) : r.renderExpression e s = r.renderExpression e s' := by
  rw [renderExpression, renderExpression, h.valueOf_eq he (.expression e)]

theorem AgreeOn.loop {s s' : Scope} (h : r.AgreeOn q s s') (item : Value) :
    r.AgreeOn q (loopScope s item) (loopScope s' item) :=
  fun name hn => lookup?_loopScope_congr (h name hn) item

/-! ### Two renderings -/

/-- The two renderings go through the same frames, and whatever fails fails in both. -/
def SameWithin.simulation (h : SameWithin r r' q) : Simulation r r' where
  frames f f' := f = f'
  scopes := r.AgreeOn q
  nodes := r.OccursIn q
  excused := Unless (fun _ => False)
  excused_of_none _ _ h := h.of_none
  excused_endless := .inr rfl
  same_fillings _ _ h := sameFillings_of_eq h
  agree_expression := by
    rintro f _ s s' e rfl hs hx
    refine .of_eq ?_
    rw [hs.renderExpression_eq hx.node, renderExpression_congr (congrArg _ h.settings)]
  agree_value := by
    rintro f _ s s' x path rfl hs hx ht
    exact .of_eq (hs.valueOf_eq hx.node (.test ht))
  agree_descend := by
    rintro f _ rfl
    exact .of_eq (congrFun (descend_congr h.settings) f)
  agree_enter := by
    rintro f _ x role name overrides rfl hx ha
    have hname := h.sources name (hx.node.leadsTo ha.mem_references)
    exact .of_eq (enter_congr h.settings hname f role)
  scopes_loop _ _ _ _ _ _ hs _ _ item _ := hs.loop item
  frames_loop _ _ h := congrArg loopFrame h
  frames_template _ _ _ _ _ _ _ _ h _ ha ha' _ := ha.templateFrame_eq h ha'
  nodes_within _ _ _ hx hw := hx.within hw
  nodes_loop _ _ hx := ⟨hx.node, hx.fillings⟩
  nodes_template _ _ _ _ _ _ _ _ hx ha he _ hy := hx.template ha (enter_eq_ok_iff.1 he).2.2 hy

/-- **Only what the trees of a request name plays a part**: where stores agree on the templates that
it leads to and scopes on the names that it mentions, its tree is rendered alike. -/
theorem renderIn_eq_of_agree (h : SameWithin r r' q) {s s' : Scope} (hs : r.AgreeOn q s s')
    {ns : List Node} (ht : r.rootTree q = .ok ns) :
    r.renderIn q.frame s ns = r'.renderIn q.frame s' ns := by
  have hns : ∀ x ∈ ns, r.OccursIn q q.frame x := by
    intro x hx
    refine ⟨TreeOf.occurs (.root ht) hx, ?_⟩
    cases q <;> exact fun b hb => by cases hb
  have hframe : h.simulation.frames q.frame q.frame := rfl
  have hagree := h.simulation.agree_renderIn hframe s s' ns hs hns
  rcases agree_unless_iff.1 hagree with heq | ⟨_, hfalse, -⟩
  · exact heq
  · cases hfalse

/-! ### Requests -/

theorem SameWithin.prepare_eq (h : SameWithin r r' q) (now : Moment) (context : Value) :
    r.prepare now context q = r'.prepare now context q := by
  cases q with
  | source text => simp only [prepare, scopeAndTree, read_congr h.settings]
  | template name =>
    simp only [prepare, scopeAndTree, h.sources name (.root rfl), read_congr h.settings]

theorem AgreeOn.refl (s : Scope) : r.AgreeOn q s s := fun _ _ => rfl

theorem SameWithin.refl (r : Renderer) (q : Request) : SameWithin r r q := ⟨rfl, fun _ _ => rfl⟩

/-- **A rendering depends only on the templates it can reach.**  Two renderers with the same filters
and limits, whose stores have the same source, or none, for every template that a request leads to,
give it the same outcome, text or failure. -/
theorem answer_eq_of_sameSources (hsettings : r.toRenderSettings = r'.toRenderSettings)
    (hsources : ∀ name, r.LeadsTo q name → r.source? name = r'.source? name) (now : Moment)
    (context : Value) : r.answer now context q = r'.answer now context q := by
  have h : SameWithin r r' q := ⟨hsettings, hsources⟩
  rw [answer_eq, answer_eq, ← h.prepare_eq]
  cases hp : r.prepare now context q with
  | error e => rfl
  | ok prepared =>
    obtain ⟨s, ns⟩ := prepared
    exact renderIn_eq_of_agree h (.refl s) (prepare_eq_ok hp).2

/-- The store `partFilling` with a further template, which is not even one. -/
def withNews : Renderer :=
  { partFilling with
    source? := fun name =>
      if name = "news" then some "\x7b\x7b#if\x7d\x7d" else partFilling.source? name }

theorem answer_eq_of_sameSources_withNews :
    (∀ name, partFilling.LeadsTo (.template "c") name →
      partFilling.source? name = withNews.source? name) ∧
    partFilling.source? "news" = none ∧ (withNews.source? "news").isSome ∧
    partFilling.answer (.ofDate ⟨2024, 1, 1, by decide⟩) (.map []) (.template "c") =
      withNews.answer (.ofDate ⟨2024, 1, 1, by decide⟩) (.map []) (.template "c") := by
  have hsettings : partFilling.toRenderSettings = withNews.toRenderSettings := rfl
  have hsources : ∀ name, partFilling.LeadsTo (.template "c") name →
      partFilling.source? name = withNews.source? name := by
    intro name h
    have hne : name ≠ "news" := by
      rcases leadsTo_partFilling h with rfl | rfl | rfl <;> decide
    exact (if_neg hne).symm
  have hanswer := answer_eq_of_sameSources hsettings hsources
    (.ofDate ⟨2024, 1, 1, by decide⟩) (.map [])
  exact ⟨hsources, rfl, rfl, hanswer⟩

/-- **A rendering depends only on the names that its templates mention.**  Two contexts that give
scopes in which every name that stands first in a path of the trees of a request finds the same, or
nothing in both, give the same outcome, text or failure. -/
theorem answer_eq_of_sameMentions {now now' : Moment} {context context' : Value} {s s' : Scope}
    (hs : scopeOf now context = .ok s) (hs' : scopeOf now' context' = .ok s')
    (h : ∀ name, r.Mentions q name → lookup? name s = lookup? name s') :
    r.answer now context q = r.answer now' context' q := by
  rw [answer_eq, answer_eq, prepare_of_scopeOf hs, prepare_of_scopeOf hs']
  cases ht : r.rootTree q with
  | error e => rfl
  | ok ns => exact renderIn_eq_of_agree (.refl r q) h ht

/-! ### A page that mentions three names -/

def listPage : Renderer :=
  ofTemplates
    [("page", "\x7b\x7b#each xs\x7d\x7d\x7b\x7bthis.n\x7d\x7d\x7b\x7b/each\x7d\x7d" ++
        "\x7b\x7b> foot\x7d\x7d"),
      ("foot", "\x7b\x7bsite.name\x7d\x7d")]

theorem tree?_listPage_page : listPage.tree? "page" =
    some [.each "xs" [.variable ⟨"this.n", []⟩], .part "foot"] :=
  tree?_ofTemplates rfl (by decide) (by rfl)

theorem tree?_listPage_foot :
    listPage.tree? "foot" = some [.variable ⟨"site.name", []⟩] :=
  tree?_ofTemplates rfl (by decide) (by rfl)

theorem leadsTo_listPage {name : String} (h : listPage.LeadsTo (.template "page") name) :
    name = "page" ∨ name = "foot" := by
  refine h.of_closed (fun n => n = "page" ∨ n = "foot") (.inl rfl) ?_
  rintro a b (rfl | rfl) ⟨ns, ht, hb⟩
  · obtain rfl := Option.some.inj (tree?_listPage_page.symm.trans ht)
    exact .inr (List.mem_singleton.1 hb)
  · obtain rfl := Option.some.inj (tree?_listPage_foot.symm.trans ht)
    cases hb

theorem treeOf_listPage {ns : List Node} (h : listPage.TreeOf (.template "page") ns) :
    ns = [.each "xs" [.variable ⟨"this.n", []⟩], .part "foot"] ∨
      ns = [.variable ⟨"site.name", []⟩] := by
  cases h with
  | root h =>
    rw [rootTree_template_iff, tree?_listPage_page] at h
    exact .inl (Option.some.inj h).symm
  | template h ht =>
    rcases leadsTo_listPage h with rfl | rfl
    · rw [tree?_listPage_page] at ht
      exact .inl (Option.some.inj ht).symm
    · rw [tree?_listPage_foot] at ht
      exact .inr (Option.some.inj ht).symm

theorem mentions_listPage {name : String} (h : listPage.Mentions (.template "page") name) :
    name = "xs" ∨ name = "this" ∨ name = "site" := by
  obtain ⟨x, path, ⟨ns, ht, hx⟩, hr, rfl⟩ := h
  have hnode : x = .each "xs" [.variable ⟨"this.n", []⟩] ∨ x = .part "foot" ∨
      x = .variable ⟨"this.n", []⟩ ∨ x = .variable ⟨"site.name", []⟩ := by
    rcases treeOf_listPage ht with rfl | rfl
    · refine hx.of_closed (fun y => y = .each "xs" [.variable ⟨"this.n", []⟩] ∨ y = .part "foot" ∨
        y = .variable ⟨"this.n", []⟩ ∨ y = .variable ⟨"site.name", []⟩) ?_ ?_
      · intro y hy
        rcases List.mem_cons.1 hy with hy | hy
        · exact .inl hy
        · exact .inr (.inl (List.mem_singleton.1 hy))
      · rintro y z (rfl | rfl | rfl | rfl) hz
        · exact .inr (.inr (.inl (List.mem_singleton.1 hz)))
        all_goals cases hz
    · refine .inr (.inr (.inr (hx.of_closed (fun y => y = .variable ⟨"site.name", []⟩) ?_ ?_)))
      · exact fun y hy => List.mem_singleton.1 hy
      · rintro y z rfl hz
        cases hz
  rcases hnode with rfl | rfl | rfl | rfl <;> rcases hr with _ | ⟨⟨⟩⟩
  · exact .inl (by decide)
  · exact .inr (.inl (by decide))
  · exact .inr (.inr (by decide))

def listItems : Value := .list [.map [(.text "n", .int 1), (.text "draft", .null)], .int 2]

theorem answer_eq_of_sameMentions_listPage :
    let s : Scope := [(.text "xs", listItems), (.text "site", .map []), (.text "draft", .bool true)]
    let s' : Scope := [(.text "site", .map []), (.text "xs", listItems)]
    scopeOf (.ofDate ⟨2024, 1, 1, by decide⟩) (.map s) = .ok s ∧
      scopeOf (.ofDate ⟨2025, 1, 1, by decide⟩) (.map s') = .ok s' ∧
      (∀ name, listPage.Mentions (.template "page") name → lookup? name s = lookup? name s') ∧
      listPage.answer (.ofDate ⟨2024, 1, 1, by decide⟩) (.map s) (.template "page") =
        listPage.answer (.ofDate ⟨2025, 1, 1, by decide⟩) (.map s') (.template "page") := by
  intro s s'
  have hs : scopeOf (.ofDate ⟨2024, 1, 1, by decide⟩) (.map s) = .ok s := rfl
  have hs' : scopeOf (.ofDate ⟨2025, 1, 1, by decide⟩) (.map s') = .ok s' := rfl
  have hmentions : ∀ name, listPage.Mentions (.template "page") name →
      lookup? name s = lookup? name s' := by
    intro name h
    rcases mentions_listPage h with rfl | rfl | rfl <;> rfl
  exact ⟨hs, hs', hmentions, answer_eq_of_sameMentions hs hs' hmentions⟩

end Renderer

end SiteTemplates
