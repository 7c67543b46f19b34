import SiteTemplates.Proofs.Render.Failures
import SiteTemplates.Proofs.Render.Simulation
import SiteTemplates.Proofs.Template.Asked

/-!
# Where a missing template is asked for

A template that is asked for and not found is a fault, and it is reported for the template of the
frame.  That is the template whose tree is being expanded, but not always the one that asks: the
body of a filling is written in one template and comes up in another one, the layout or a layout of
that layout.

`Fills` says which bodies may fill the blocks of a template, and where they are written.  A filling
is given to the layout that it stands in, and whatever fills the blocks of a template is passed on
to each layout that comes up there, by the template itself or out of another filling.  So the
invariant of a rendering is that a node of a frame is written in the template of the frame, or in a
body that fills its blocks (`ComesUpIn`); the fault names the former (`asksIn_of_missing`), and in
the store `lostPart` that is not where the tag stands.
-/

namespace SiteTemplates

/-- The failure reports that a template is not found. -/
def Failure.isMissing : Failure → Bool
  | .template ⟨.missing _ _, _⟩ => true
  | _ => false

theorem Contains.trans {ns ms : List Node} {x : Node} (h : Contains ms x)
    (hm : ∀ y ∈ ms, Contains ns y) : Contains ns x :=
  h.of_closed (Contains ns) hm (fun _ _ hy hz => .child hy hz)

namespace Renderer

variable {r : Renderer}

/-! ### Where nodes are written and where they come up -/

/-- A node is written in the template of a name. -/
def Holds (r : Renderer) (name : String) (x : Node) : Prop :=
  ∃ ns, r.tree? name = some ns ∧ Contains ns x

/-- A body that is written in the template `origin` may fill the blocks of the template `name`. -/
inductive Fills (r : Renderer) : (origin : String) → List Node → (name : String) → Prop
  | given {origin layout : String} {fillings : List (String × List Node)} {b : String × List Node}
      (hx : r.Holds origin (.layout layout fillings)) (hb : b ∈ fillings) :
      Fills r origin b.2 layout
  | kept {origin name layout : String} {body : List Node} {fillings : List (String × List Node)}
      (h : Fills r origin body name) (hx : r.Holds name (.layout layout fillings)) :
      Fills r origin body layout
  | carried {origin other name layout : String} {body lent : List Node}
      {fillings : List (String × List Node)} (h : Fills r origin body name)
      (hl : Fills r other lent name) (hx : Contains lent (.layout layout fillings)) :
      Fills r origin body layout

/-- A node of the template `origin` comes up in the template `name`: that is the same template, or
the node stands in a body that fills its blocks. -/
def ComesUp (r : Renderer) (origin : String) (x : Node) (name : String) : Prop :=
  r.Holds origin x ∧ (origin = name ∨ ∃ body, r.Fills origin body name ∧ Contains body x)

theorem Fills.holds {origin name : String} {body : List Node} (h : r.Fills origin body name)
    {x : Node} (hx : Contains body x) : r.Holds origin x := by
  induction h with
  | @given _ _ _ b hlayout hb =>
    obtain ⟨ns, ht, hn⟩ := hlayout
    have hbody : ∀ y ∈ b.2, Contains ns y := by
      intro y hy
      exact .child hn (List.mem_flatMap.2 ⟨b, hb, hy⟩)
    exact ⟨ns, ht, hx.trans hbody⟩
  | kept _ _ ih => exact ih hx
  | carried _ _ _ ih _ => exact ih hx

theorem Fills.comesUp {origin name : String} {body : List Node} (h : r.Fills origin body name)
    {x : Node} (hx : Contains body x) : r.ComesUp origin x name :=
  ⟨h.holds hx, .inr ⟨body, h, hx⟩⟩

theorem ComesUp.child {origin name : String} {x y : Node} (h : r.ComesUp origin x name)
    (hy : y ∈ x.children) : r.ComesUp origin y name := by
  obtain ⟨⟨ns, ht, hx⟩, hplace⟩ := h
  refine ⟨⟨ns, ht, .child hx hy⟩, ?_⟩
  rcases hplace with rfl | ⟨body, hf, hx⟩
  · exact .inl rfl
  · exact .inr ⟨body, hf, .child hx hy⟩

/-- What fills the blocks of a template is passed on to the layouts that come up there. -/
theorem Fills.passed {origin other name layout : String} {body : List Node}
    {fillings : List (String × List Node)} (h : r.Fills origin body name)
    (hx : r.ComesUp other (.layout layout fillings) name) : r.Fills origin body layout := by
  obtain ⟨hheld, rfl | ⟨lent, hl, hx⟩⟩ := hx
  · exact .kept h hheld
  · exact .carried h hl hx

/-! ### Frames -/

/-- A node comes up in the template of a frame, and so does all that the overrides of the frame
hold. -/
structure ComesUpIn (r : Renderer) (f : Frame) (x : Node) (name : String) : Prop where
  name_eq : f.name = some name
  found : ∃ ns, r.tree? name = some ns
  node : ∃ origin, r.ComesUp origin x name
  overrides : ∀ b ∈ f.overrides, ∃ origin, r.Fills origin b.2 name

variable {f : Frame} {x : Node} {n : String}

theorem ComesUpIn.within (h : r.ComesUpIn f x n) {y : Node} (hw : Within f.overrides x y) :
    r.ComesUpIn f y n := by
  refine ⟨h.name_eq, h.found, ?_, h.overrides⟩
  rcases hw.mem_children_or with hy | ⟨b, hb, hy⟩
  · obtain ⟨origin, hx⟩ := h.node
    exact ⟨origin, hx.child hy⟩
  · obtain ⟨origin, hf⟩ := h.overrides b hb
    exact ⟨origin, hf.comesUp (.top hy)⟩

theorem ComesUpIn.asked (h : r.ComesUpIn f x n) {role : Role} {name : String}
    {overrides : List (String × List Node)} (ha : Asks f.overrides x role name overrides) :
    ∀ b ∈ overrides, ∃ origin, r.Fills origin b.2 name := by
  intro b hb
  cases ha with
  | part => cases hb
  | layout name fillings =>
    obtain ⟨other, hx⟩ := h.node
    rcases List.mem_append.1 hb with hb | hb
    · obtain ⟨origin, hf⟩ := h.overrides b hb
      exact ⟨origin, hf.passed hx⟩
    · exact ⟨other, .given hx.1 (List.mem_reverse.1 hb)⟩

theorem ComesUpIn.template (h : r.ComesUpIn f x n) {role : Role} {name : String}
    {overrides : List (String × List Node)} (ha : Asks f.overrides x role name overrides)
    {ns : List Node} (ht : r.tree? name = some ns) {y : Node} (hy : y ∈ ns) :
    r.ComesUpIn (templateFrame f name overrides) y name where
  name_eq := rfl
  found := ⟨ns, ht⟩
  node := ⟨name, ⟨ns, ht, .top hy⟩, .inl rfl⟩
  overrides := h.asked ha

/-- A failure reports no missing template, or one that is asked for by a node that comes up in the
template that it names. -/
def ToldOf (r : Renderer) (e : Failure) : Prop :=
  ∀ role missing name, e = .template ⟨.missing role missing, name⟩ →
    r.source? missing = none ∧ ∃ n origin x, name = some n ∧ (∃ ns, r.tree? n = some ns) ∧
      r.ComesUp origin x n ∧ x.asked? = some (role, missing)

theorem toldOf_of_not_isMissing {e : Failure} (h : e.isMissing = false) : r.ToldOf e := by
  intro role missing name he
  subst he
  cases h

theorem ComesUpIn.toldOf (h : r.ComesUpIn f x n) {role : Role} {name : String}
    {overrides : List (String × List Node)} (ha : Asks f.overrides x role name overrides)
    {e : Failure} (he : r.enter f role name = .error e) : r.ToldOf e := by
  rcases error_of_enter he with ⟨-, rfl⟩ | ⟨hnone, rfl⟩ | rfl | ⟨source, -, he⟩
  · exact toldOf_of_not_isMissing rfl
  · intro role' missing name' heq
    obtain ⟨⟨rfl, rfl⟩, rfl⟩ : (role = role' ∧ name = missing) ∧ f.name = name' := by
      simpa [faultIn] using heq
    obtain ⟨origin, hx⟩ := h.node
    exact ⟨hnone, n, origin, x, h.name_eq, h.found, hx, ha.asked?_eq⟩
  · exact toldOf_of_not_isMissing rfl
  · rcases error_of_read he with rfl | ⟨flaw, rfl⟩ <;> exact toldOf_of_not_isMissing rfl

theorem not_isMissing_of_builtin {name : String} {v : Value} {arguments : List String} {e : Failure}
    (h : FilterRegistry.builtin.apply name v arguments = .error e) : e.isMissing = false := by
  cases FilterRegistry.complains_of_builtin h <;> rfl

/-- What a rendering keeps: its nodes come up in the templates of their frames, and what is missing
is asked for there. -/
def nodesComeUp
    (hf : ∀ name v arguments e, r.filters.apply name v arguments = .error e →
      e.isMissing = false) : Invariant r where
  frames _ := True
  scopes _ := True
  nodes f x := ∃ n, r.ComesUpIn f x n
  failures := r.ToldOf
  failures_endless := toldOf_of_not_isMissing rfl
  failures_expression _ _ _ _ _ _ _ h :=
    toldOf_of_not_isMissing (failure_of_renderExpression hf rfl h)
  failures_value _ _ _ _ _ _ _ _ _ h := by
    rw [error_of_valueOf h]
    exact toldOf_of_not_isMissing rfl
  failures_descend _ _ _ h := by
    rw [error_of_descend h]
    exact toldOf_of_not_isMissing rfl
  failures_enter := by
    rintro f x role name overrides e - ⟨n, hx⟩ ha h
    exact hx.toldOf ha h
  scopes_loop _ _ _ _ _ _ _ _ _ _ := trivial
  frames_loop _ _ := trivial
  frames_template _ _ _ _ _ _ _ _ _ _ := trivial
  nodes_within := by
    rintro f x y ⟨n, hx⟩ hw
    exact ⟨n, hx.within hw⟩
  nodes_loop := by
    rintro f x ⟨n, hx⟩
    exact ⟨n, hx.name_eq, hx.found, hx.node, hx.overrides⟩
  nodes_template := by
    rintro f x role name overrides ns - ⟨n, hx⟩ ha he y hy
    obtain ⟨-, -, ht⟩ := enter_eq_ok_iff.1 he
    exact ⟨name, hx.template ha ht hy⟩

theorem Holds.asksIn {name : String} (h : r.Holds name x) {role : Role} {other : String}
    (ha : x.asked? = some (role, other)) :
    ∃ source, r.source? name = some source ∧ AsksIn source role other := by
  obtain ⟨ns, ht, hx⟩ := h
  obtain ⟨source, hs, hread⟩ := tree?_eq_some_iff.1 ht
  obtain ⟨-, hn⟩ := read_eq_ok_iff.1 hread
  exact ⟨source, hs, asksIn_of_contains hn hx ha⟩

/-! ### A lost part -/

/-- A template `c` that fills a block of its layout `l` with a template that is missing. -/
def lostPart : Renderer :=
  ofTemplates
    [("c", "\x7b\x7b#extends l\x7d\x7d\x7b\x7b#block b\x7d\x7d\x7b\x7b> x\x7d\x7d" ++
        "\x7b\x7b/block\x7d\x7d\x7b\x7b/extends\x7d\x7d"),
      ("l", "\x7b\x7b#block b\x7d\x7d\x7b\x7b/block\x7d\x7d")]

theorem tree?_lostPart_c : lostPart.tree? "c" = some [.layout "l" [("b", [.part "x"])]] :=
  tree?_ofTemplates rfl (by decide) (by rfl)

theorem tree?_lostPart_l : lostPart.tree? "l" = some [.block "b" []] :=
  tree?_ofTemplates rfl (by decide) (by rfl)

theorem renderTemplate_lostPart (now : Moment) :
    lostPart.renderTemplate now "c" (.map []) =
      .error (.template ⟨.missing .part "x", some "l"⟩) := by
  have hl : lostPart.enter { stack := ["c"], name := some "c" } .layout "l" =
      .ok [.block "b" []] :=
    enter_eq_ok_iff.2 ⟨by decide, by decide, tree?_lostPart_l⟩
  have hinner : lostPart.renderIn ⟨1, ["c", "l"], [("b", [.part "x"])], some "l"⟩ []
      [.block "b" []] = .error (.template ⟨.missing .part "x", some "l"⟩) := rfl
  have hs : scopeOf now (.map []) = .ok [] := rfl
  rw [renderTemplate_of_tree? hs tree?_lostPart_c, renderIn_eq]
  simp only [renderLevel, renderNodes_cons, renderNode, renderNamed_eq, hl, List.length_nil]
  exact congrArg (· >>= _) hinner

/-! ### Missing templates -/

/-- **Who asks for a missing template.**  If no filter reports a missing template of its own and a
rendering reports a missing part or layout, then it is missing, and the report names the template in
which a tag for it comes up.  That tag is written in the source of this very template, or in a body
of another one that fills its blocks. -/
theorem asksIn_of_missing
    (hf : ∀ name v arguments e, r.filters.apply name v arguments = .error e → e.isMissing = false)
    {now : Moment} {root missing : String} {context : Value} {role : Role} {name : Option String}
    (hrole : role ≠ .root)
    (h : r.renderTemplate now root context =
      .error (.template ⟨.missing role missing, name⟩)) :
    r.source? missing = none ∧ ∃ n origin source, name = some n ∧ (∃ ns, r.tree? n = some ns) ∧
      r.source? origin = some source ∧ AsksIn source role missing ∧
      (origin = n ∨ ∃ body x, r.Fills origin body n ∧ Contains body x ∧
        x.asked? = some (role, missing)) := by
  rcases error_of_renderTemplate h with ⟨-, he⟩ | he | ⟨source, -, he⟩ | ⟨scope, ns, ht, he⟩
  · cases he
    exact absurd rfl hrole
  · rcases error_of_scopeOf he with he | he <;> cases he
  · rcases error_of_read he with he | ⟨flaw, he⟩ <;> cases he
  · have hns : ∀ x ∈ ns, ∃ n, r.ComesUpIn { stack := [root], name := some root } x n := by
      intro x hx
      refine ⟨root, rfl, ⟨ns, ht⟩, ⟨root, ⟨ns, ht, .top hx⟩, .inl rfl⟩, ?_⟩
      intro b hb
      cases hb
    have htold : r.ToldOf (.template ⟨.missing role missing, name⟩) :=
      Invariant.failures_of_renderIn (I := nodesComeUp hf) trivial trivial hns he
    obtain ⟨hnone, n, origin, x, hname, hfound, ⟨hheld, hplace⟩, hasked⟩ :=
      htold role missing name rfl
    obtain ⟨source, hs, htag⟩ := hheld.asksIn hasked
    refine ⟨hnone, n, origin, source, hname, hfound, hs, htag, ?_⟩
    rcases hplace with horigin | ⟨body, hfills, hx⟩
    · exact .inl horigin
    · exact .inr ⟨body, x, hfills, hx, hasked⟩

theorem asksIn_of_missing_lostPart :
    lostPart.renderTemplate (.ofDate ⟨2024, 1, 1, by decide⟩) "c" (.map []) =
        .error (.template ⟨.missing .part "x", some "l"⟩) ∧
      lostPart.source? "x" = none ∧
      ∃ origin source, lostPart.source? origin = some source ∧ AsksIn source .part "x" ∧
        (origin = "l" ∨ ∃ body x, lostPart.Fills origin body "l" ∧ Contains body x ∧
          x.asked? = some (.part, "x")) := by
  have hrun := renderTemplate_lostPart (.ofDate ⟨2024, 1, 1, by decide⟩)
  obtain ⟨hnone, n, origin, source, hn, -, hs, htag, hplace⟩ :=
    asksIn_of_missing (r := lostPart) (fun _ _ _ _ h => not_isMissing_of_builtin h) (by decide) hrun
  obtain rfl : "l" = n := Option.some.inj hn
  exact ⟨hrun, hnone, origin, source, hs, htag, hplace⟩

/-- **The report can name a template that does not ask.**  That for `lostPart` names `l`, whose
source has no tag for the missing part; the one tag for it is written in `c`. -/
theorem not_asksIn_lostPart :
    lostPart.renderTemplate (.ofDate ⟨2024, 1, 1, by decide⟩) "c" (.map []) =
        .error (.template ⟨.missing .part "x", some "l"⟩) ∧
      (∃ source, lostPart.source? "l" = some source ∧ ¬ AsksIn source .part "x") ∧
      ∃ source, lostPart.source? "c" = some source ∧ AsksIn source .part "x" := by
  refine ⟨renderTemplate_lostPart _, ⟨_, rfl, ?_⟩, ?_⟩
  · rintro ⟨ts, hts, t, ht, hasked⟩
    have htokens : Token.ofSource "\x7b\x7b#block b\x7d\x7d\x7b\x7b/block\x7d\x7d".toList =
        .ok [⟨.opening .block "b", 0⟩, ⟨.closing "block", 12⟩] := by rfl
    obtain rfl := Except.ok.inj (htokens.symm.trans hts)
    simp only [List.mem_cons, List.not_mem_nil, or_false] at ht
    rcases ht with rfl | rfl <;> cases hasked
  · have hc : lostPart.Holds "c" (.part "x") :=
      ⟨_, tree?_lostPart_c, .child (.top List.mem_cons_self) List.mem_cons_self⟩
    exact hc.asksIn rfl

end Renderer

end SiteTemplates
