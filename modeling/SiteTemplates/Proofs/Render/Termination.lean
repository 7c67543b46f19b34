import Mathlib.Data.Fintype.Card
import Mathlib.Data.Fintype.EquivFin
import Mathlib.Logic.Relation
import SiteTemplates.Proofs.Render.Steps

/-!
# Renderings that end

A block is rendered as the filling for its name, which may hold blocks that have fillings again.  So
a run may go round on one level for ever, unless no filling needs itself in the end (`Acyclic`).
Where this holds of all fillings in force along the way, the run ends, and with what
`Renderer.answer` gives.

Three orders are inside one another.  The levels below a frame become fewer with every loop, part
and layout; on one level the fillings go down along what they need, which is well founded as they
are finitely many (`Acyclic.induction`); and the rest goes down the tree (`completes_node`).
-/

namespace SiteTemplates

open Relation

namespace Node

mutual

/-- The names of the blocks in a node that wait for a filling, at any nesting.  What a layout is
given fills blocks itself, and on another level. -/
def placeholders : Node → List String
  | .text _ => []
  | .variable _ => []
  | .conditional _ _ body alternative => placeholdersAll body ++ placeholdersAll alternative
  | .each _ body => placeholdersAll body
  | .part _ => []
  | .block name body => name :: placeholdersAll body
  | .layout _ _ => []

/-- The names of the blocks in nodes that wait for a filling. -/
def placeholdersAll : List Node → List String
  | [] => []
  | n :: rest => placeholders n ++ placeholdersAll rest

end

end Node

/-! ### What fillings need -/

/-- The filling of one block holds another block that has a filling. -/
def Needs (es : List (String × List Node)) (a b : String) : Prop :=
  ∃ filling, es.lookup a = some filling ∧ b ∈ Node.placeholdersAll filling ∧
    (es.lookup b).isSome = true

/-- No filling needs itself in the end. -/
def Acyclic (es : List (String × List Node)) : Prop := ∀ a, ¬ TransGen (Needs es) a a

variable {es : List (String × List Node)}

theorem Needs.mem_fillingNames {a b : String} (h : Needs es a b) : b ∈ fillingNames es := by
  obtain ⟨filling, -, -, hsome⟩ := h
  obtain ⟨inner, hl⟩ := Option.isSome_iff_exists.1 hsome
  exact SiteTemplates.mem_fillingNames hl

theorem Acyclic.wellFounded (h : Acyclic es) :
    WellFounded (fun b a : {a // a ∈ fillingNames es} => TransGen (Needs es) a.1 b.1) := by
  have htrans : IsTrans {a // a ∈ fillingNames es} (fun b a => TransGen (Needs es) a.1 b.1) :=
    ⟨fun _ _ _ hab hbc => hbc.trans hab⟩
  have hirrefl : Std.Irrefl
      (fun b a : {a // a ∈ fillingNames es} => TransGen (Needs es) a.1 b.1) :=
    ⟨fun a ha => h a.1 ha⟩
  exact Finite.wellFounded_of_trans_of_irrefl _

/-- What holds of a name once it holds of all that its filling needs holds of every name. -/
theorem Acyclic.induction (h : Acyclic es) {P : String → Prop}
    (hP : ∀ a, (∀ b, Needs es a b → P b) → P a) (a : String) : P a := by
  have hnames : ∀ a : {a // a ∈ fillingNames es}, P a.1 := by
    intro a
    induction a using h.wellFounded.induction with
    | _ a ih => exact hP a.1 (fun b hb => ih ⟨b, hb.mem_fillingNames⟩ (.single hb))
  exact hP a (fun b hb => hnames ⟨b, hb.mem_fillingNames⟩)

/-- A rank of names that goes down along what fillings need rules a circle out. -/
theorem acyclic_of_rank (rank : String → Nat) (h : ∀ a b, Needs es a b → rank b < rank a) :
    Acyclic es := by
  have hdown : ∀ a b, TransGen (Needs es) a b → rank b < rank a := by
    intro a b hab
    induction hab with
    | single hab => exact h _ _ hab
    | tail _ hbc ih => exact (h _ _ hbc).trans ih
  intro a ha
  exact Nat.lt_irrefl _ (hdown a a ha)

namespace Renderer

variable {r : Renderer}

/-! ### Tasks that are completed -/

/-- In all frames that a run will reach no filling needs itself. -/
def Safe (r : Renderer) (p : Progress) : Prop :=
  ∀ q, r.Reaches p q → ∀ f ∈ q.frames, Acyclic f.overrides

theorem Safe.of_reaches {p q : Progress} (h : r.Safe p) (hq : r.Reaches p q) : r.Safe q :=
  fun _ hu => h _ (hq.trans hu)

/-- A task on top comes to its outcome, whatever lies below it. -/
def Completes (r : Renderer) (task : Task) (o : Outcome) : Prop :=
  ∀ done rest, r.Safe (.going done (task :: rest)) →
    r.Reaches (.going done (task :: rest)) (.after done rest o)

/-- The first node of a task on top comes to its outcome. -/
def CompletesFirst (r : Renderer) (f : Frame) (s : Scope) (x : Node) (o : Outcome) : Prop :=
  ∀ ns done rest, r.Safe (.going done (.nodes f s (x :: ns) :: rest)) →
    r.Reaches (.going done (.nodes f s (x :: ns) :: rest)) (.after done (.nodes f s ns :: rest) o)

/-- One level below a frame, where there is such a level, nodes are completed. -/
def CompletesBelow (r : Renderer) (f : Frame) : Prop :=
  (f.depth : Int) < r.maxDepth → ∀ g : Frame, g.depth = f.depth + 1 → ∀ s ns,
    r.Completes (.nodes g s ns) (r.renderIn g s ns)

theorem completes_nil (f : Frame) (s : Scope) :
    r.Completes (.nodes f s []) (r.renderIn f s []) := by
  intro done rest _
  rw [renderIn_nil]
  refine .of_step rfl ?_
  simp only [Progress.after, String.append_empty]
  exact .refl _

/-- The first task is completed and then the second one. -/
theorem reaches_after_bind {done : String} {rest : List Task} {task' : Task} {o o' : Outcome}
    {p : Progress} (hp : r.Safe p) (h : r.Reaches p (.after done (task' :: rest) o))
    (h' : r.Completes task' o') :
    r.Reaches p (.after done rest (do
      let t ← o
      let u ← o'
      return t ++ u)) := by
  cases o with
  | error e => exact h
  | ok t =>
    have hnext := h.trans (h' (done ++ t) rest (hp.of_reaches h))
    cases o' with
    | error e => exact hnext
    | ok u =>
      have hassoc : done ++ t ++ u = done ++ (t ++ u) := String.append_assoc
      simp only [Progress.after, hassoc] at hnext
      exact hnext

theorem completes_cons {f : Frame} {s : Scope} {x : Node} {ns : List Node}
    (hx : r.CompletesFirst f s x (r.renderIn f s [x]))
    (hns : r.Completes (.nodes f s ns) (r.renderIn f s ns)) :
    r.Completes (.nodes f s (x :: ns)) (r.renderIn f s (x :: ns)) := by
  intro done rest hsafe
  rw [renderIn_cons]
  exact reaches_after_bind hsafe (hx ns done rest hsafe) hns

theorem completes_items {f : Frame} {s : Scope} {body : List Node}
    (h : ∀ s, r.Completes (.nodes f s body) (r.renderIn f s body)) (values : List Value) :
    r.Completes (.items f s body values)
      (joined (fun v => r.renderIn f (Value.loopScope s v) body) values) := by
  induction values with
  | nil =>
    intro done rest _
    refine .of_step rfl ?_
    simp only [joined, Progress.after, String.append_empty]
    exact .refl _
  | cons v values ih =>
    intro done rest hsafe
    have hfirst : r.Reaches (.going done (.items f s body (v :: values) :: rest))
        (.going done (.nodes f (Value.loopScope s v) body :: .items f s body values :: rest)) :=
      .of_step rfl (.refl _)
    have hbody := h (Value.loopScope s v) done (.items f s body values :: rest)
      (hsafe.of_reaches hfirst)
    exact reaches_after_bind hsafe (hfirst.trans hbody) ih

/-! ### Nodes that are completed -/

theorem completesFirst_of_visit_error {f : Frame} {s : Scope} {x : Node} {e : Failure}
    (h : r.visit f s x = .error e) : r.CompletesFirst f s x (.error e) := by
  intro ns done rest _
  refine .of_step (q := .ended (.error e)) ?_ (.refl _)
  simp only [step, h]

theorem completesFirst_of_visit_text {f : Frame} {s : Scope} {x : Node} {t : String}
    (h : r.visit f s x = .ok (t, [])) : r.CompletesFirst f s x (.ok t) := by
  intro ns done rest _
  refine .of_step (q := .going (done ++ t) (.nodes f s ns :: rest)) ?_ (.refl _)
  simp only [step, h, List.nil_append]

theorem completesFirst_of_visit_task {f : Frame} {s : Scope} {x : Node} {task : Task} {o : Outcome}
    (h : r.visit f s x = .ok ("", [task])) (ho : r.Completes task o) :
    r.CompletesFirst f s x o := by
  intro ns done rest hsafe
  have hfirst : r.Reaches (.going done (.nodes f s (x :: ns) :: rest))
      (.going done (task :: .nodes f s ns :: rest)) := by
    refine .of_step ?_ (.refl _)
    simp only [step, h, String.append_empty, List.singleton_append]
  exact hfirst.trans (ho done (.nodes f s ns :: rest) (hsafe.of_reaches hfirst))

theorem completesFirst_of_enter {f : Frame} {s : Scope} {x : Node} {role : Role} {name : String}
    {overrides : List (String × List Node)} (hbelow : r.CompletesBelow f)
    (hx : r.visit f s x = (do
      let ns ← r.enter f role name
      return ("", [.nodes (templateFrame f name overrides) s ns]))) :
    r.CompletesFirst f s x (do
      let ns ← r.enter f role name
      r.renderIn (templateFrame f name overrides) s ns) := by
  cases he : r.enter f role name with
  | error e =>
    rw [he] at hx
    exact completesFirst_of_visit_error hx
  | ok ns =>
    rw [he] at hx
    have hdepth := (enter_eq_ok_iff.1 he).2.1
    exact completesFirst_of_visit_task hx (hbelow hdepth _ rfl s ns)

mutual

/-- A node is completed where the fillings of its blocks are. -/
theorem completes_node {f : Frame} (hbelow : r.CompletesBelow f) {s : Scope} (x : Node)
    (hfill : ∀ b ∈ x.placeholders, ∀ filling, f.overrides.lookup b = some filling →
      r.Completes (.nodes f s filling) (r.renderIn f s filling)) :
    r.CompletesFirst f s x (r.renderIn f s [x]) := by
  cases x with
  | text t =>
    rw [renderIn_text]
    exact completesFirst_of_visit_text rfl
  | «variable» e =>
    rw [renderIn_variable]
    cases he : r.renderExpression e s with
    | error e' => exact completesFirst_of_visit_error (by simp only [visit, he]; rfl)
    | ok t => exact completesFirst_of_visit_text (by simp only [visit, he]; rfl)
  | conditional path negated body alternative =>
    have hbody := completes_nodes hbelow body (fun b hb => hfill b (List.mem_append_left _ hb))
    have halternative := completes_nodes hbelow alternative
      (fun b hb => hfill b (List.mem_append_right _ hb))
    rw [renderIn_conditional]
    cases hv : valueOf path s with
    | error e => exact completesFirst_of_visit_error (by simp only [visit, hv]; rfl)
    | ok v =>
      refine completesFirst_of_visit_task (by simp only [visit, hv]; rfl) ?_
      simp only [bind, Except.bind]
      cases v.isTrue != negated with
      | true => exact hbody
      | false => exact halternative
  | each path body =>
    rw [renderIn_each]
    cases hv : valueOf path s with
    | error e => exact completesFirst_of_visit_error (by simp only [visit, hv]; rfl)
    | ok v =>
      by_cases hi : itemsOf v = []
      · simp only [bind, Except.bind, if_pos hi]
        exact completesFirst_of_visit_text
          (by simp only [visit, hv, bind, Except.bind, if_pos hi]; rfl)
      · simp only [bind, Except.bind, if_neg hi]
        cases hd : r.descend f with
        | error e =>
          exact completesFirst_of_visit_error
            (by simp only [visit, hv, bind, Except.bind, if_neg hi, hd])
        | ok u =>
          have hloop := hbelow (descend_eq_ok_iff.1 hd) (loopFrame f) rfl
          exact completesFirst_of_visit_task
            (by simp only [visit, hv, bind, Except.bind, if_neg hi, hd]; rfl)
            (completes_items (fun s => hloop s body) (itemsOf v))
  | part name =>
    rw [renderIn_part]
    exact completesFirst_of_enter hbelow rfl
  | block name body =>
    have hbody := completes_nodes hbelow body (fun b hb => hfill b (List.mem_cons_of_mem _ hb))
    rw [renderIn_block]
    refine completesFirst_of_visit_task rfl ?_
    cases hl : f.overrides.lookup name with
    | none => exact hbody
    | some filling => exact hfill name List.mem_cons_self filling hl
  | layout name fillings =>
    rw [renderIn_layout]
    exact completesFirst_of_enter hbelow rfl

theorem completes_nodes {f : Frame} (hbelow : r.CompletesBelow f) {s : Scope} (ns : List Node)
    (hfill : ∀ b ∈ Node.placeholdersAll ns, ∀ filling, f.overrides.lookup b = some filling →
      r.Completes (.nodes f s filling) (r.renderIn f s filling)) :
    r.Completes (.nodes f s ns) (r.renderIn f s ns) := by
  cases ns with
  | nil => exact completes_nil f s
  | cons x rest =>
    have hx := completes_node hbelow x (fun b hb => hfill b (List.mem_append_left _ hb))
    have hrest := completes_nodes hbelow rest (fun b hb => hfill b (List.mem_append_right _ hb))
    exact completes_cons hx hrest

end

/-- On a level where no filling needs itself every filling is completed. -/
theorem completes_filling {f : Frame} (hbelow : r.CompletesBelow f) {s : Scope}
    (hf : Acyclic f.overrides) (name : String) :
    ∀ filling, f.overrides.lookup name = some filling →
      r.Completes (.nodes f s filling) (r.renderIn f s filling) := by
  induction name using hf.induction with
  | _ name ih =>
    intro filling hl
    refine completes_nodes hbelow filling (fun b hb inner hinner => ?_)
    have hneeds : Needs f.overrides name b := ⟨filling, hl, hb, by rw [hinner]; rfl⟩
    exact ih b hneeds inner hinner

/-- **Every task of nodes is completed**, with what rendering gives for them. -/
theorem completes (f : Frame) (s : Scope) (ns : List Node) :
    r.Completes (.nodes f s ns) (r.renderIn f s ns) := by
  -- on the number of levels below the frame
  induction hn : (r.maxDepth - f.depth).toNat using Nat.strongRecOn generalizing f s ns with
  | ind n ih =>
    have hbelow : r.CompletesBelow f := by
      intro hlt g hg s ns
      exact ih _ (by omega) g s ns rfl
    intro done rest hsafe
    have hf : Acyclic f.overrides := hsafe _ (.refl _) f List.mem_cons_self
    exact completes_nodes hbelow ns (fun b _ => completes_filling hbelow hf b) done rest hsafe

theorem reaches_answer {now : Moment} {context : Value} {q : Request}
    (h : r.Safe (r.start now context q)) :
    r.Reaches (r.start now context q) (.ended (r.answer now context q)) := by
  rw [answer_eq]
  simp only [start] at h ⊢
  cases hp : r.prepare now context q with
  | error e => exact .refl _
  | ok prepared =>
    obtain ⟨scope, ns⟩ := prepared
    simp only [hp] at h ⊢
    have hreach := completes q.frame scope ns "" [] h
    simp only [bind, Except.bind]
    cases ho : r.renderIn q.frame scope ns with
    | error e =>
      rw [ho] at hreach
      exact hreach
    | ok t =>
      rw [ho] at hreach
      refine hreach.trans (.of_step ?_ (.refl _))
      simp only [Progress.after, step, String.empty_append]

/-! ### A filling that needs another one -/

/-- A template `c` that fills a block `a` of its layout `l` with a block `b`, which it fills too. -/
def nestedFilling : Renderer :=
  ofTemplates
    [("c", "\x7b\x7b#extends l\x7d\x7d\x7b\x7b#block a\x7d\x7d\x7b\x7b#block b\x7d\x7d" ++
        "\x7b\x7b/block\x7d\x7d\x7b\x7b/block\x7d\x7d\x7b\x7b#block b\x7d\x7dx" ++
        "\x7b\x7b/block\x7d\x7d\x7b\x7b/extends\x7d\x7d"),
      ("l", "\x7b\x7b#block a\x7d\x7d\x7b\x7b/block\x7d\x7d")]

set_option maxRecDepth 2000 in
theorem tree?_nestedFilling_c :
    nestedFilling.tree? "c" =
      some [.layout "l" [("a", [.block "b" []]), ("b", [.text "x"])]] :=
  tree?_ofTemplates rfl (by decide) (by rfl)

theorem tree?_nestedFilling_l : nestedFilling.tree? "l" = some [.block "a" []] :=
  tree?_ofTemplates rfl (by decide) (by rfl)

def nestedFillings : List (String × List Node) := [("b", [.text "x"]), ("a", [.block "b" []])]

theorem acyclic_nestedFillings : Acyclic nestedFillings := by
  refine acyclic_of_rank (fun name => if name = "a" then 1 else 0) (fun a b h => ?_)
  obtain ⟨filling, hl, hb, -⟩ := h
  have ha : a = "a" ∧ b = "b" := by
    simp only [nestedFillings, Table.lookup_cons_ite] at hl
    split at hl
    · obtain rfl := Option.some.inj hl
      cases hb
    · split at hl
      · rename_i ha
        obtain rfl := Option.some.inj hl
        have hmem : b ∈ ["b"] := hb
        exact ⟨ha, List.mem_singleton.1 hmem⟩
      · cases hl
  obtain ⟨rfl, rfl⟩ := ha
  decide

def nestedStart (now : Moment) : Progress :=
  nestedFilling.start now (.map []) (.template "c")

def nestedProgress : Progress :=
  .going "" [.nodes ⟨1, ["c", "l"], nestedFillings, some "l"⟩ [] [.block "a" []],
    .nodes { stack := ["c"], name := some "c" } [] []]

theorem nestedStart_eq (now : Moment) :
    nestedStart now = .going "" [.nodes { stack := ["c"], name := some "c" } []
      [.layout "l" [("a", [.block "b" []]), ("b", [.text "x"])]]] := by
  rw [nestedStart, start, prepare_of_tree? rfl tree?_nestedFilling_c]
  rfl

theorem step_nestedStart (now : Moment) :
    nestedFilling.step (nestedStart now) = nestedProgress := by
  have hl : nestedFilling.enter { stack := ["c"], name := some "c" } .layout "l" =
      .ok [.block "a" []] :=
    enter_eq_ok_iff.2 ⟨by decide, by decide, tree?_nestedFilling_l⟩
  simp only [nestedStart_eq, step, visit, hl]
  rfl

theorem safe_nestedStart (now : Moment) : nestedFilling.Safe (nestedStart now) := by
  have hend : nestedFilling.step^[9] (nestedStart now) = .ended (.ok "x") := by
    rw [Function.iterate_succ_apply, step_nestedStart]
    rfl
  have hall : (List.range 8).flatMap
      (fun i => (nestedFilling.step^[i] nestedProgress).frames.map Frame.overrides) =
        [nestedFillings, [], nestedFillings, nestedFillings, [], nestedFillings, nestedFillings,
          nestedFillings, [], nestedFillings, nestedFillings, nestedFillings, [], nestedFillings,
          nestedFillings, [], nestedFillings, [], []] := rfl
  have hframes : ∀ es ∈ (List.range 8).flatMap
      (fun i => (nestedFilling.step^[i] nestedProgress).frames.map Frame.overrides),
      es = [] ∨ es = nestedFillings := by
    rw [hall]
    simp
  have hacyclic : ∀ es, es = [] ∨ es = nestedFillings → Acyclic es := by
    rintro es (rfl | rfl)
    · exact acyclic_of_rank (fun _ => 0) (fun a b h => by cases h.choose_spec.1)
    · exact acyclic_nestedFillings
  intro p hp f hf
  refine hacyclic _ ?_
  obtain ⟨i, hi, rfl⟩ | rfl := hp.eq_iterate_or_ended hend
  · cases i with
    | zero =>
      rw [Function.iterate_zero_apply, nestedStart_eq] at hf
      obtain rfl := List.mem_singleton.1 hf
      exact .inl rfl
    | succ i =>
      rw [Function.iterate_succ_apply, step_nestedStart] at hf
      have hi' : i < 8 := by omega
      exact hframes _ (List.mem_flatMap.2
        ⟨i, List.mem_range.2 hi', List.mem_map.2 ⟨f, hf, rfl⟩⟩)
  · cases hf

/-- **Rendering ends.**  Where no filling needs itself in the frames that come up, a run is at its
end after finitely many steps, with what rendering gives, and that is a text or a failure with a
cause.  Wherever a run gets to, its frames keep to the limits. -/
theorem exists_iterate_eq_answer (r : Renderer) (now : Moment) (context : Value) (q : Request) :
    (r.Safe (r.start now context q) →
      (∃ n, ∀ m, n ≤ m →
        (r.step^[m] (r.start now context q)).outcome? = some (r.answer now context q)) ∧
      ((∀ name v arguments, r.filters.apply name v arguments ≠ .error .endless) →
        r.answer now context q ≠ .error .endless)) ∧
    ∀ p, r.Reaches (r.start now context q) p → ∀ f ∈ p.frames, r.Guarded f := by
  refine ⟨fun hsafe => ⟨?_, fun hf he => ?_⟩, fun p hp => hp.guarded⟩
  · obtain ⟨n, hn⟩ := reaches_answer hsafe
    refine ⟨n, fun m hm => ?_⟩
    rw [iterate_of_ended hn hm, Progress.outcome?]
  · refine (reaches_answer hsafe).ne_endless hf ?_
    rw [he]

theorem exists_iterate_eq_answer_nestedStart :
    nestedFilling.Safe (nestedStart (.ofDate ⟨2024, 1, 1, by decide⟩)) ∧
      (∃ n, ∀ m, n ≤ m →
        (nestedFilling.step^[m] (nestedStart (.ofDate ⟨2024, 1, 1, by decide⟩))).outcome? =
        some (nestedFilling.answer (.ofDate ⟨2024, 1, 1, by decide⟩) (.map []) (.template "c"))) ∧
      nestedFilling.answer (.ofDate ⟨2024, 1, 1, by decide⟩) (.map []) (.template "c") ≠
        .error .endless ∧
      ∀ f ∈ nestedProgress.frames, nestedFilling.Guarded f := by
  obtain ⟨hends, hguarded⟩ := exists_iterate_eq_answer nestedFilling
    (.ofDate ⟨2024, 1, 1, by decide⟩) (.map []) (.template "c")
  obtain ⟨hrun, hfailure⟩ := hends (safe_nestedStart _)
  refine ⟨safe_nestedStart _, hrun, hfailure ?_, ?_⟩
  · intro name v arguments h
    cases FilterRegistry.complains_of_builtin h
  · exact hguarded _ (.of_step (step_nestedStart _) (.refl _))

end Renderer

end SiteTemplates
