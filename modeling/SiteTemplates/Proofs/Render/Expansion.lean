import Mathlib.Logic.Relation
import SiteTemplates.Proofs.Render.Failures
import SiteTemplates.Proofs.Render.Simulation

/-!
# Chains of expansions

A template that is reached again while it is being expanded is a fault.  What is being expanded is
known by a stack of names, which depends on the data of a rendering.  Here it is compared with a
graph that does not.

The points of the graph are templates together with the overrides in force, an `Expansion`.  Its
edges go by what the tree of a template shows at any nesting: a part leads to its template without
overrides, a layout to its template with the overrides extended.  The stack of a frame names the
points of a chain in this graph (`OnChain`).  So where no chain comes back to a name, no rendering
reports a cycle.

The overrides belong to the points because the body of a filling is written in one template and
expanded inside of another one, the layout, which it may well name: the graph of names alone,
`Refers`, has no cycle in the store `selfFilling`, and a cycle is reported.  Where no filling asks
for a template the graph of names is enough (`neverReturns_of_refers`).
-/

namespace SiteTemplates

open Relation

/-- The failure reports that a template is reached again while it is being expanded. -/
def Failure.isCycle : Failure → Bool
  | .template ⟨.cycle _ _, _⟩ => true
  | _ => false

/-! ### The graph -/

/-- A template and the overrides in force while it is expanded. -/
structure Expansion where
  name : String
  overrides : List (String × List Node)

namespace Renderer

/-- One expansion leads to another one: its tree shows a node that asks for it. -/
inductive Expands (r : Renderer) : Expansion → Expansion → Prop
  | step {e : Expansion} {ns : List Node} {x : Node} {role : Role} {name : String}
      {overrides : List (String × List Node)} (ht : r.tree? e.name = some ns)
      (hx : Shown e.overrides ns x) (ha : Asks e.overrides x role name overrides) :
      Expands r e ⟨name, overrides⟩

/-- No chain of expansions from a template comes back to a name. -/
def NeverReturns (r : Renderer) (root : String) : Prop :=
  ∀ e e', ReflTransGen r.Expands ⟨root, []⟩ e → TransGen r.Expands e e' → e'.name ≠ e.name

variable {r : Renderer} {root : String}

/-! ### The graph of names -/

/-- The tree of one template names another one, at any nesting. -/
def Refers (r : Renderer) (name other : String) : Prop :=
  ∃ ns, r.tree? name = some ns ∧ other ∈ Node.referencesAll ns

def Quiet (fillings : List (String × List Node)) : Prop :=
  ∀ b ∈ fillings, Node.referencesAll b.2 = []

theorem Expands.refers {e e' : Expansion} (h : r.Expands e e') (hq : Quiet e.overrides) :
    r.Refers e.name e'.name := by
  obtain ⟨ht, hx, ha⟩ := h
  rcases hx.split with hs | ⟨b, hb, hm⟩
  · exact ⟨_, ht, hs.mem_references ha.mem_references⟩
  · have hn := hm _ ha.mem_references
    rw [hq b hb] at hn
    cases hn

theorem Expands.quiet {e e' : Expansion} (h : r.Expands e e') (hq : Quiet e.overrides)
    (hf : ∀ ns name fillings, r.tree? e.name = some ns → Shown [] ns (.layout name fillings) →
      Quiet fillings) : Quiet e'.overrides := by
  obtain ⟨ht, hx, ha⟩ := h
  cases ha with
  | part name =>
    intro b hb
    cases hb
  | layout name fillings =>
    rcases hx.split with hs | ⟨b, hb, hm⟩
    · intro b hb
      rcases List.mem_append.1 hb with hb | hb
      · exact hq b hb
      · exact hf _ _ _ ht hs b (List.mem_reverse.1 hb)
    · have hn := hm _ List.mem_cons_self
      rw [hq b hb] at hn
      cases hn

/-- Where no filling asks for a template, a graph of names without cycles is enough. -/
theorem neverReturns_of_refers
    (hf : ∀ n, ReflTransGen r.Refers root n → ∀ ns name fillings, r.tree? n = some ns →
      Shown [] ns (.layout name fillings) → Quiet fillings)
    (hc : ∀ n, ReflTransGen r.Refers root n → ¬ TransGen r.Refers n n) : r.NeverReturns root := by
  have hreached : ∀ e, ReflTransGen r.Expands ⟨root, []⟩ e →
      ReflTransGen r.Refers root e.name ∧ Quiet e.overrides := by
    intro e he
    induction he with
    | refl => exact ⟨.refl, fun b hb => by cases hb⟩
    | tail _ hs ih =>
      obtain ⟨hn, hq⟩ := ih
      exact ⟨hn.tail (hs.refers hq), hs.quiet hq (hf _ hn)⟩
  have hchain : ∀ e e', ReflTransGen r.Expands ⟨root, []⟩ e → TransGen r.Expands e e' →
      TransGen r.Refers e.name e'.name := by
    intro e e' he h
    induction h with
    | single hs => exact .single (hs.refers (hreached _ he).2)
    | tail hprior hs ih =>
      have hq := (hreached _ (he.trans hprior.to_reflTransGen)).2
      exact ih.tail (hs.refers hq)
  intro e e' he h hn
  have hcycle := hchain e e' he h
  rw [hn] at hcycle
  exact hc e.name (hreached e he).1 hcycle

/-- A rank of names that grows along the expansions that occur rules a return out. -/
theorem neverReturns_of_rank (occurs : Expansion → Prop) (rank : String → Nat)
    (h : occurs ⟨root, []⟩)
    (hs : ∀ e e', occurs e → r.Expands e e' → occurs e' ∧ rank e.name < rank e'.name) :
    r.NeverReturns root := by
  have hreached : ∀ e, ReflTransGen r.Expands ⟨root, []⟩ e → occurs e := by
    intro e he
    induction he with
    | refl => exact h
    | tail _ hstep ih => exact (hs _ _ ih hstep).1
  have hgrows : ∀ e e', occurs e → TransGen r.Expands e e' →
      occurs e' ∧ rank e.name < rank e'.name := by
    intro e e' ho ht
    induction ht with
    | single hstep => exact hs _ _ ho hstep
    | tail _ hstep ih =>
      obtain ⟨ho', hlt⟩ := hs _ _ ih.1 hstep
      exact ⟨ho', Nat.lt_trans ih.2 hlt⟩
  intro e e' he ht hn
  have hlt := (hgrows e e' (hreached e he) ht).2
  rw [hn] at hlt
  exact Nat.lt_irrefl _ hlt

/-! ### The stack of a frame -/

/-- A frame stands at the end of a chain of expansions from the root, and its stack names expansions
of that chain. -/
structure OnChain (r : Renderer) (root : String) (f : Frame) (name : String) : Prop where
  name_eq : f.name = some name
  reached : ReflTransGen r.Expands ⟨root, []⟩ ⟨name, f.overrides⟩
  stack : ∀ m ∈ f.stack, ∃ overrides, ReflTransGen r.Expands ⟨root, []⟩ ⟨m, overrides⟩ ∧
    ReflTransGen r.Expands ⟨m, overrides⟩ ⟨name, f.overrides⟩

def ShownIn (r : Renderer) (f : Frame) (x : Node) : Prop :=
  ∃ name ns, f.name = some name ∧ r.tree? name = some ns ∧ Shown f.overrides ns x

theorem OnChain.expands {f : Frame} {n : String} (h : r.OnChain root f n) {x : Node} {role : Role}
    {name : String} {overrides : List (String × List Node)} (hx : r.ShownIn f x)
    (ha : Asks f.overrides x role name overrides) :
    r.Expands ⟨n, f.overrides⟩ ⟨name, overrides⟩ := by
  obtain ⟨n', ns, hn', ht, hs⟩ := hx
  obtain rfl : n = n' := Option.some.inj (h.name_eq.symm.trans hn')
  exact .step ht hs ha

theorem OnChain.not_mem_stack {f : Frame} {n : String} (h : r.OnChain root f n)
    (hr : r.NeverReturns root) {name : String} {overrides : List (String × List Node)}
    (he : r.Expands ⟨n, f.overrides⟩ ⟨name, overrides⟩) : name ∉ f.stack := by
  intro hm
  obtain ⟨before, hreached, hchain⟩ := h.stack name hm
  exact hr _ _ hreached (.tail' hchain he) rfl

theorem OnChain.template {f : Frame} {n : String} (h : r.OnChain root f n) {name : String}
    {overrides : List (String × List Node)}
    (he : r.Expands ⟨n, f.overrides⟩ ⟨name, overrides⟩) :
    r.OnChain root (templateFrame f name overrides) name where
  name_eq := rfl
  reached := h.reached.tail he
  stack := by
    intro m hm
    rcases List.mem_append.1 hm with hm | hm
    · obtain ⟨before, hreached, hchain⟩ := h.stack m hm
      exact ⟨before, hreached, hchain.tail he⟩
    · obtain rfl := List.mem_singleton.1 hm
      exact ⟨overrides, h.reached.tail he, .refl⟩

theorem not_isCycle_of_builtin {name : String} {v : Value} {arguments : List String} {e : Failure}
    (h : FilterRegistry.builtin.apply name v arguments = .error e) : e.isCycle = false := by
  cases FilterRegistry.complains_of_builtin h <;> rfl

theorem not_isCycle_of_enter {f : Frame} {role : Role} {name : String} {e : Failure}
    (hm : name ∉ f.stack) (h : r.enter f role name = .error e) : e.isCycle = false := by
  rcases error_of_enter h with ⟨hc, -⟩ | ⟨-, rfl⟩ | rfl | ⟨source, -, h⟩
  · exact absurd hc hm
  · rfl
  · rfl
  · rcases error_of_read h with rfl | ⟨flaw, rfl⟩ <;> rfl

/-- What a rendering keeps where no chain returns: its frames stand on chains, and whatever fails is
no cycle. -/
def alongChains
    (hf : ∀ name v arguments e, r.filters.apply name v arguments = .error e → e.isCycle = false)
    (hr : r.NeverReturns root) : Invariant r where
  frames f := ∃ n, r.OnChain root f n
  scopes _ := True
  nodes := r.ShownIn
  failures e := e.isCycle = false
  failures_endless := rfl
  failures_expression _ _ _ _ _ _ _ h := failure_of_renderExpression hf rfl h
  failures_value _ _ _ _ _ _ _ _ _ h := by
    rw [error_of_valueOf h]
    rfl
  failures_descend _ _ _ h := by
    rw [error_of_descend h]
    rfl
  failures_enter := by
    rintro f x role name overrides e ⟨n, hc⟩ hx ha h
    exact not_isCycle_of_enter (hc.not_mem_stack hr (hc.expands hx ha)) h
  scopes_loop _ _ _ _ _ _ _ _ _ _ := trivial
  frames_loop := by
    rintro f ⟨n, hc⟩
    exact ⟨n, hc.name_eq, hc.reached, hc.stack⟩
  frames_template := by
    rintro f x role name overrides ns ⟨n, hc⟩ hx ha -
    exact ⟨name, hc.template (hc.expands hx ha)⟩
  nodes_within := by
    rintro f x y ⟨n, ns, hn, ht, hs⟩ hw
    exact ⟨n, ns, hn, ht, .within hs hw⟩
  nodes_loop _ _ h := h
  nodes_template := by
    rintro f x role name overrides ns - - - he y hy
    obtain ⟨-, -, ht⟩ := enter_eq_ok_iff.1 he
    exact ⟨name, ns, rfl, ht, .top hy⟩

theorem onChain_root : r.OnChain root { stack := [root], name := some root } root where
  name_eq := rfl
  reached := .refl
  stack := by
    intro m hm
    obtain rfl := List.mem_singleton.1 hm
    exact ⟨[], .refl, .refl⟩

/-! ### Two stores -/

/-- A template `c` that fills a block of its layout `l` with the template `p`. -/
def partFilling : Renderer :=
  ofTemplates
    [("c", "\x7b\x7b#extends l\x7d\x7d\x7b\x7b#block b\x7d\x7d\x7b\x7b> p\x7d\x7d" ++
        "\x7b\x7b/block\x7d\x7d\x7b\x7b/extends\x7d\x7d"),
      ("l", "\x7b\x7b#block b\x7d\x7d\x7b\x7b/block\x7d\x7d"), ("p", "x")]

theorem tree?_partFilling_c :
    partFilling.tree? "c" = some [.layout "l" [("b", [.part "p"])]] :=
  tree?_ofTemplates rfl (by decide) (by rfl)

theorem tree?_partFilling_l : partFilling.tree? "l" = some [.block "b" []] :=
  tree?_ofTemplates rfl (by decide) (by rfl)

theorem tree?_partFilling_p : partFilling.tree? "p" = some [.text "x"] :=
  tree?_ofTemplates rfl (by decide) (by rfl)

theorem expands_partFilling_c {e : Expansion} (h : partFilling.Expands ⟨"c", []⟩ e) :
    e = ⟨"l", [("b", [.part "p"])]⟩ := by
  cases h with
  | @step ns x _ _ _ ht hx ha =>
    obtain rfl := Option.some.inj (tree?_partFilling_c.symm.trans ht)
    have hlayout : x = .layout "l" [("b", [.part "p"])] := by
      refine hx.of_closed (fun y => y = .layout "l" [("b", [.part "p"])]) ?_ ?_
      · intro y hy
        exact List.mem_singleton.1 hy
      · rintro y z rfl hw
        cases hw
    subst hlayout
    cases ha
    rfl

theorem expands_partFilling_l {e : Expansion}
    (h : partFilling.Expands ⟨"l", [("b", [.part "p"])]⟩ e) : e = ⟨"p", []⟩ := by
  cases h with
  | @step ns x _ _ _ ht hx ha =>
    obtain rfl := Option.some.inj (tree?_partFilling_l.symm.trans ht)
    have hblock : x = .block "b" [] ∨ x = .part "p" := by
      refine hx.of_closed (fun y => y = .block "b" [] ∨ y = .part "p") ?_ ?_
      · intro y hy
        exact .inl (List.mem_singleton.1 hy)
      · rintro y z (rfl | rfl) hw
        · cases hw with
          | default hl _ => cases hl
          | filling hl hz =>
            cases hl
            exact .inr (List.mem_singleton.1 hz)
        · cases hw
    rcases hblock with rfl | rfl
    · cases ha
    · cases ha
      rfl

theorem not_expands_partFilling_p {e : Expansion} : ¬ partFilling.Expands ⟨"p", []⟩ e := by
  intro h
  cases h with
  | @step ns x _ _ _ ht hx ha =>
    obtain rfl := Option.some.inj (tree?_partFilling_p.symm.trans ht)
    have htext : x = .text "x" := by
      refine hx.of_closed (fun y => y = .text "x") ?_ ?_
      · intro y hy
        exact List.mem_singleton.1 hy
      · rintro y z rfl hw
        cases hw
    subst htext
    cases ha

theorem neverReturns_partFilling : partFilling.NeverReturns "c" := by
  refine neverReturns_of_rank
    (fun e => e = ⟨"c", []⟩ ∨ e = ⟨"l", [("b", [.part "p"])]⟩ ∨ e = ⟨"p", []⟩)
    (fun n => if n = "c" then 0 else if n = "l" then 1 else 2) (.inl rfl) (fun e e' he hs => ?_)
  rcases he with rfl | rfl | rfl
  · rw [expands_partFilling_c hs]
    exact ⟨.inr (.inl rfl), by decide⟩
  · rw [expands_partFilling_l hs]
    exact ⟨.inr (.inr rfl), by decide⟩
  · exact absurd hs not_expands_partFilling_p

/-- A template `c` that fills a block of its layout `l` with that layout. -/
def selfFilling : Renderer :=
  ofTemplates
    [("c", "\x7b\x7b#extends l\x7d\x7d\x7b\x7b#block b\x7d\x7d\x7b\x7b> l\x7d\x7d" ++
        "\x7b\x7b/block\x7d\x7d\x7b\x7b/extends\x7d\x7d"),
      ("l", "\x7b\x7b#block b\x7d\x7d\x7b\x7b/block\x7d\x7d")]

theorem tree?_selfFilling_c :
    selfFilling.tree? "c" = some [.layout "l" [("b", [.part "l"])]] :=
  tree?_ofTemplates rfl (by decide) (by rfl)

theorem tree?_selfFilling_l : selfFilling.tree? "l" = some [.block "b" []] :=
  tree?_ofTemplates rfl (by decide) (by rfl)

theorem refers_selfFilling {n m : String} (h : selfFilling.Refers n m) : n = "c" ∧ m = "l" := by
  obtain ⟨ns, ht, hm⟩ := h
  by_cases hc : n = "c"
  · subst hc
    rw [tree?_selfFilling_c] at ht
    cases ht
    have hl : m ∈ ["l", "l"] := hm
    simpa using hl
  by_cases hl : n = "l"
  · subst hl
    rw [tree?_selfFilling_l] at ht
    cases ht
    cases hm
  have hnone : selfFilling.source? n = none := by
    show List.lookup n _ = none
    rw [Table.lookup_cons_ite, Table.lookup_cons_ite, if_neg hc, if_neg hl]
    rfl
  rw [tree?_eq_none hnone] at ht
  cases ht

theorem not_transGen_selfFilling (n : String) : ¬ TransGen selfFilling.Refers n n := by
  intro h
  obtain ⟨_, hfirst, -⟩ := TransGen.head'_iff.1 h
  obtain ⟨_, -, hlast⟩ := TransGen.tail'_iff.1 h
  obtain ⟨rfl, -⟩ := refers_selfFilling hfirst
  obtain ⟨-, hl⟩ := refers_selfFilling hlast
  exact absurd hl (by decide)

/-! ### Cycles -/

/-- **A cycle that is reported is a cycle of expansions.** If no chain of expansions from a template
comes back to a name, and no filter reports a cycle of its own, then rendering that template
reports none, whatever the context is. -/
theorem renderTemplate_ne_cycle
    (hf : ∀ name v arguments e, r.filters.apply name v arguments = .error e → e.isCycle = false)
    (hr : r.NeverReturns root) (now : Moment) (context : Value) (role : Role) (chain : List String)
    (name : Option String) :
    r.renderTemplate now root context ≠ .error (.template ⟨.cycle role chain, name⟩) := by
  intro h
  rcases error_of_renderTemplate h with ⟨-, he⟩ | he | ⟨source, -, he⟩ | ⟨scope, ns, ht, he⟩
  · cases he
  · rcases error_of_scopeOf he with he | he <;> cases he
  · rcases error_of_read he with he | ⟨flaw, he⟩ <;> cases he
  · have hns : ∀ x ∈ ns, r.ShownIn { stack := [root], name := some root } x := fun x hx =>
      ⟨root, ns, rfl, ht, .top hx⟩
    have hcycle : Failure.isCycle (.template ⟨.cycle role chain, name⟩) = false :=
      Invariant.failures_of_renderIn (I := alongChains hf hr) ⟨root, onChain_root⟩ trivial hns he
    cases hcycle

theorem renderTemplate_ne_cycle_partFilling :
    partFilling.NeverReturns "c" ∧
      partFilling.renderTemplate (.ofDate ⟨2024, 1, 1, by decide⟩) "c" (.map []) ≠
        .error (.template ⟨.cycle .part ["c", "l", "p"], some "l"⟩) :=
  ⟨neverReturns_partFilling, renderTemplate_ne_cycle (fun _ _ _ _ h => not_isCycle_of_builtin h)
    neverReturns_partFilling _ _ _ _ _⟩

/-- A store without a cycle in the graph of names, and a cycle that is reported all the same. -/
theorem renderTemplate_cycle_selfFilling :
    (∀ n, ReflTransGen selfFilling.Refers "c" n → ¬ TransGen selfFilling.Refers n n) ∧
      selfFilling.renderTemplate (.ofDate ⟨2024, 1, 1, by decide⟩) "c" (.map []) =
        .error (.template ⟨.cycle .part ["c", "l", "l"], some "l"⟩) := by
  refine ⟨fun n _ => not_transGen_selfFilling n, ?_⟩
  have hl : selfFilling.enter { stack := ["c"], name := some "c" } .layout "l" =
      .ok [.block "b" []] :=
    enter_eq_ok_iff.2 ⟨by decide, by decide, tree?_selfFilling_l⟩
  have hinner : selfFilling.renderIn ⟨1, ["c", "l"], [("b", [.part "l"])], some "l"⟩ []
      [.block "b" []] = .error (.template ⟨.cycle .part ["c", "l", "l"], some "l"⟩) := rfl
  have hs : scopeOf (.ofDate ⟨2024, 1, 1, by decide⟩) (.map []) = .ok [] := rfl
  rw [renderTemplate_of_tree? hs tree?_selfFilling_c, renderIn_eq]
  simp only [renderLevel, renderNodes_cons, renderNode, renderNamed_eq, hl, List.length_nil]
  exact congrArg (· >>= _) hinner

end Renderer

end SiteTemplates
