import SiteTemplates.Proofs.Render.Recursion

/-!
# Chains of layouts

A template may do no more than extend another one, which extends a third one in turn, down to a base
that has text of its own.  Every template of the chain gives fillings, and two rules decide between
them: inside one template the last filling for a name counts, and between templates the one that
comes earlier.  Here both become one rule, over chains of any length (`lookup_chainFillings_iff`),
and rendering the first template is rendering the tree of the base with the fillings that it
selects (`renderTemplate_chain`).
-/

namespace SiteTemplates

/-- A template that does no more than extend another one. -/
structure Link where
  name : String
  fillings : List (String × List Node)

namespace Link

/-- The name of the first template of a chain. -/
def firstName (base : String) : List Link → String
  | [] => base
  | l :: _ => l.name

/-- The names of the templates of a chain. -/
def names (base : String) (links : List Link) : List String := links.map Link.name ++ [base]

def tree (base : String) (nodes : List Node) : List Link → List Node
  | [] => nodes
  | l :: rest => [.layout (firstName base rest) l.fillings]

def LastFilling (fillings : List (String × List Node)) (b : String) (body : List Node) : Prop :=
  ∃ before after, fillings = before ++ (b, body) :: after ∧ ∀ p ∈ after, p.1 ≠ b

/-- The first template of a chain that fills a name fills it with this. -/
def Innermost (links : List Link) (b : String) (body : List Node) : Prop :=
  ∃ before l after, links = before ++ l :: after ∧
    (∀ k ∈ before, ∀ p ∈ k.fillings, p.1 ≠ b) ∧ LastFilling l.fillings b body

def chainFillings (links : List Link) : List (String × List Node) :=
  links.flatMap (fun l => l.fillings.reverse)

/-! ### Which filling counts -/

theorem lookup_reverse_iff {fillings : List (String × List Node)} {b : String} {body : List Node} :
    fillings.reverse.lookup b = some body ↔ LastFilling fillings b body := by
  rw [List.lookup_eq_some_iff]
  constructor
  · rintro ⟨after, before, hsplit, hne⟩
    refine ⟨before.reverse, after.reverse, ?_, fun p hp he => ?_⟩
    · rw [List.reverse_eq_iff.1 hsplit]
      simp
    · have hb := hne p (List.mem_reverse.1 hp)
      simp [he] at hb
  · rintro ⟨before, after, rfl, hne⟩
    refine ⟨after.reverse, before.reverse, by simp, fun p hp => ?_⟩
    have hb := hne p (List.mem_reverse.1 hp)
    simpa using Ne.symm hb

theorem lookup_reverse_eq_none_iff {fillings : List (String × List Node)} {b : String} :
    fillings.reverse.lookup b = none ↔ ∀ p ∈ fillings, p.1 ≠ b := by
  rw [List.lookup_eq_none_iff]
  constructor
  · intro h p hp he
    have hb := h p (List.mem_reverse.2 hp)
    simp [he] at hb
  · intro h p hp
    have hb := h p (List.mem_reverse.1 hp)
    simpa using Ne.symm hb

theorem innermost_cons_iff {l : Link} {links : List Link} {b : String} {body : List Node} :
    Innermost (l :: links) b body ↔
      LastFilling l.fillings b body ∨ (∀ p ∈ l.fillings, p.1 ≠ b) ∧ Innermost links b body := by
  constructor
  · rintro ⟨before, k, after, hsplit, hbefore, hlast⟩
    cases before with
    | nil =>
      obtain ⟨rfl, -⟩ := List.cons.inj hsplit
      exact .inl hlast
    | cons k' before =>
      obtain ⟨rfl, rfl⟩ := List.cons.inj hsplit
      exact .inr ⟨hbefore l List.mem_cons_self,
        before, k, after, rfl, fun k' hk => hbefore k' (List.mem_cons_of_mem _ hk), hlast⟩
  · rintro (hlast | ⟨hl, before, k, after, rfl, hbefore, hlast⟩)
    · exact ⟨[], l, links, rfl, (fun k hk => by cases hk), hlast⟩
    · refine ⟨l :: before, k, after, rfl, fun k' hk => ?_, hlast⟩
      rcases List.mem_cons.1 hk with rfl | hk
      · exact hl
      · exact hbefore k' hk

/-- **The two rules are one**: of all fillings for a name in a chain the innermost comes first. -/
theorem lookup_chainFillings_iff {links : List Link} {b : String} {body : List Node} :
    (chainFillings links).lookup b = some body ↔ Innermost links b body := by
  induction links with
  | nil =>
    constructor
    · intro h
      cases h
    · rintro ⟨before, l, after, hsplit, -, -⟩
      cases before <;> cases hsplit
  | cons l links ih =>
    rw [chainFillings, List.flatMap_cons, List.lookup_append, Option.or_eq_some_iff,
      lookup_reverse_iff, lookup_reverse_eq_none_iff, innermost_cons_iff, ← ih]
    rfl

/-- Overrides select the innermost filling of a chain for each name, and none where it has none. -/
def Selects (links : List Link) (overrides : List (String × List Node)) : Prop :=
  ∀ b body, overrides.lookup b = some body ↔ Innermost links b body

theorem selects_chainFillings (links : List Link) : Selects links (chainFillings links) :=
  fun _ _ => lookup_chainFillings_iff

theorem Selects.sameFillings {links : List Link} {es es' : List (String × List Node)}
    (h : Selects links es) (h' : Selects links es') : SameFillings es es' :=
  fun b => Option.ext fun body => (h b body).trans (h' b body).symm

/-! ### The names of a chain -/

theorem names_eq_cons (base : String) (links : List Link) :
    names base links = firstName base links :: (names base links).tail := by
  cases links <;> rfl

theorem tail_names_cons (base : String) (l : Link) (links : List Link) :
    (names base (l :: links)).tail = firstName base links :: (names base links).tail :=
  names_eq_cons base links

end Link

namespace Renderer

open Link

variable {r : Renderer} {base : String} {nodes : List Node}

/-- The templates of a chain extend one another in turn, and each of them is one tag for that. -/
def LayoutChain (r : Renderer) (base : String) : List Link → Prop
  | [] => True
  | l :: rest =>
    r.tree? l.name = some [.layout (firstName base rest) l.fillings] ∧ LayoutChain r base rest

theorem LayoutChain.tree?_firstName {links : List Link} (h : r.LayoutChain base links)
    (hb : r.tree? base = some nodes) :
    r.tree? (firstName base links) = some (Link.tree base nodes links) := by
  cases links with
  | nil => exact hb
  | cons l rest => exact h.1

def baseFrame (f : Frame) (base : String) (links : List Link) : Frame :=
  ⟨f.depth + links.length, f.stack ++ (names base links).tail, f.overrides ++ chainFillings links,
    some base⟩

theorem renderIn_chain {s : Scope} (hb : r.tree? base = some nodes) {links : List Link} :
    ∀ {f : Frame}, r.LayoutChain base links → (f.stack ++ (names base links).tail).Nodup →
      (f.depth + links.length : Int) ≤ r.maxDepth → f.name = some (firstName base links) →
      r.renderIn f s (Link.tree base nodes links) =
        r.renderIn (baseFrame f base links) s nodes := by
  induction links with
  | nil =>
    intro f _ _ _ hname
    obtain ⟨depth, stack, overrides, name⟩ := f
    obtain rfl : name = some base := hname
    simp [baseFrame, names, chainFillings, Link.tree]
  | cons l rest ih =>
    intro f hchain hnodup hdepth _
    rw [tail_names_cons] at hnodup
    rw [List.length_cons] at hdepth
    have henter : r.enter f .layout (firstName base rest) = .ok (Link.tree base nodes rest) := by
      refine enter_eq_ok_iff.2 ⟨fun hm => ?_, by omega, hchain.2.tree?_firstName hb⟩
      have hdisjoint := (List.nodup_append.1 hnodup).2.2
      exact hdisjoint _ hm _ List.mem_cons_self rfl
    have hinner := ih
      (f := templateFrame f (firstName base rest) (f.overrides ++ l.fillings.reverse)) hchain.2
      (by simpa [templateFrame] using hnodup) (by simp only [templateFrame]; omega) rfl
    have hframe : baseFrame
        (templateFrame f (firstName base rest) (f.overrides ++ l.fillings.reverse)) base rest =
          baseFrame f base (l :: rest) := by
      have hcount : f.depth + 1 + rest.length = f.depth + (rest.length + 1) := by omega
      simp only [baseFrame, templateFrame, tail_names_cons, chainFillings, List.flatMap_cons,
        List.length_cons, List.append_assoc, List.singleton_append, hcount]
    rw [Link.tree, renderIn_layout, henter, ← hframe]
    exact hinner

/-! ### The first template of a chain -/

/-- **A chain of layouts resolves every block to the innermost filling.** The first template of a
chain, whose names are all different and which is no longer than the limit, is rendered as the tree
of the base, below all templates of the chain, with any overrides that select the innermost filling
for each name and none for the others; and there are such overrides. -/
theorem renderTemplate_chain {links : List Link} (hchain : r.LayoutChain base links)
    (hb : r.tree? base = some nodes) (hnodup : (names base links).Nodup)
    (hdepth : (links.length : Int) ≤ r.maxDepth) (now : Moment) (context : Value) :
    (∃ overrides, Selects links overrides) ∧
    ∀ overrides, Selects links overrides →
      r.renderTemplate now (firstName base links) context = (do
        let scope ← scopeOf now context
        r.renderIn ⟨links.length, names base links, overrides, some base⟩ scope nodes) := by
  refine ⟨⟨chainFillings links, selects_chainFillings links⟩, fun overrides hselects => ?_⟩
  have hframe : baseFrame
      { stack := [firstName base links], name := some (firstName base links) } base links =
        ⟨links.length, names base links, chainFillings links, some base⟩ := by
    simp [baseFrame, ← names_eq_cons]
  have halike : Alike ⟨links.length, names base links, chainFillings links, some base⟩
      ⟨links.length, names base links, overrides, some base⟩ :=
    ⟨rfl, rfl, rfl, (selects_chainFillings links).sameFillings hselects⟩
  rw [renderTemplate_eq_of_tree? (hchain.tree?_firstName hb)]
  refine congrArg _ (funext fun scope => ?_)
  rw [← halike.renderIn, ← hframe]
  refine renderIn_chain hb hchain ?_ ?_ rfl
  · have hcons : [firstName base links] ++ (names base links).tail = names base links :=
      (names_eq_cons base links).symm
    rw [hcons]
    exact hnodup
  · simpa using hdepth

/-! ### A chain of three templates -/

/-- A template `a` that fills `x` twice in `b`, which fills `x` and `y` in `c`. -/
def threeTemplates : Renderer :=
  ofTemplates
    [("a", "\x7b\x7b#extends b\x7d\x7d\x7b\x7b#block x\x7d\x7d1\x7b\x7b/block\x7d\x7d" ++
        "\x7b\x7b#block x\x7d\x7d2\x7b\x7b/block\x7d\x7d\x7b\x7b/extends\x7d\x7d"),
      ("b", "\x7b\x7b#extends c\x7d\x7d\x7b\x7b#block x\x7d\x7d3\x7b\x7b/block\x7d\x7d" ++
        "\x7b\x7b#block y\x7d\x7d4\x7b\x7b/block\x7d\x7d\x7b\x7b/extends\x7d\x7d"),
      ("c", "\x7b\x7b#block y\x7d\x7d\x7b\x7b/block\x7d\x7d" ++
        "\x7b\x7b#block x\x7d\x7d\x7b\x7b/block\x7d\x7d")]

def threeLinks : List Link :=
  [⟨"a", [("x", [.text "1"]), ("x", [.text "2"])]⟩, ⟨"b", [("x", [.text "3"]), ("y", [.text "4"])]⟩]

theorem tree?_threeTemplates_c :
    threeTemplates.tree? "c" = some [.block "y" [], .block "x" []] :=
  tree?_ofTemplates rfl (by decide) (by rfl)

set_option maxRecDepth 2000 in
theorem layoutChain_threeTemplates : threeTemplates.LayoutChain "c" threeLinks :=
  ⟨tree?_ofTemplates rfl (by decide) (by rfl), tree?_ofTemplates rfl (by decide) (by rfl), trivial⟩

theorem renderTemplate_chain_threeTemplates :
    threeTemplates.LayoutChain "c" threeLinks ∧ (names "c" threeLinks).Nodup ∧
      Selects threeLinks (chainFillings threeLinks) ∧
      threeTemplates.renderTemplate (.ofDate ⟨2024, 1, 1, by decide⟩) "a" (.map []) =
        .ok "42" := by
  have hnodup : (names "c" threeLinks).Nodup := by decide
  have hselects := selects_chainFillings threeLinks
  refine ⟨layoutChain_threeTemplates, hnodup, hselects, ?_⟩
  obtain ⟨-, hchain⟩ := renderTemplate_chain layoutChain_threeTemplates tree?_threeTemplates_c
    hnodup (by decide) (.ofDate ⟨2024, 1, 1, by decide⟩) (.map [])
  exact (hchain _ hselects).trans rfl

end Renderer

end SiteTemplates
