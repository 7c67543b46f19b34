import Mathlib.Data.Finset.Card
import SiteTemplates.Proofs.Render.Levels
import SiteTemplates.Proofs.Template.Shown

/-!
# Comparing two renderings

Many facts about rendering compare one rendering with another: over more templates, under other
limits, or with itself along an invariant.  They all go through the same recursions, which are
followed here once.

A `Simulation` says which frames and scopes of the two renderings belong together, which nodes may
come up in a frame, and which failures of the first rendering are excused, given the failure of the
second one, if it fails.  Its fields ask what one step of rendering must preserve.
`Simulation.agree_renderIn` is the result: the first rendering gives the text of the second one, or
it fails with an excuse.

A `Lockstep` is the frequent case in which the scopes are the same and any node may come up.

Frames that belong together give every block the same filling, but perhaps not in lists of one
length, and `Renderer.renderIn` counts by that length how often a level may be left for a filling.
The count plays no part (`renderLevel_of_length_le`): the names whose filling is settled grow with
it, and there are no more of them than names that have a filling.

An `Invariant` is the case of one rendering beside itself, where all that is left of the result is
which failures may occur (`Invariant.failures_of_renderIn`).
-/

namespace SiteTemplates

/-! ### Agreement of outcomes -/

def failureOf? {α : Type} : Except Failure α → Option Failure
  | .ok _ => none
  | .error e => some e

/-- The first computation gives the value of the second one, or fails with an excuse. -/
inductive Agree (excused : Failure → Option Failure → Prop) {α : Type} :
    Except Failure α → Except Failure α → Prop
  | value (a : α) : Agree excused (.ok a) (.ok a)
  | failure {e : Failure} {x : Except Failure α} (h : excused e (failureOf? x)) :
      Agree excused (.error e) x

namespace Agree

variable {excused : Failure → Option Failure → Prop} {α β : Type}

theorem bind (hn : ∀ e o, excused e none → excused e o) {x x' : Except Failure α}
    {f f' : α → Except Failure β} (h : Agree excused x x')
    (hf : ∀ a, x = .ok a → x' = .ok a → Agree excused (f a) (f' a)) :
    Agree excused (x >>= f) (x' >>= f') := by
  cases h with
  | value a => exact hf a rfl rfl
  | @failure e _ h =>
    refine .failure ?_
    cases x' with
    | ok a => exact hn e _ h
    | error e' => exact h

theorem eq_of_ok {x x' : Except Failure α} {a : α} (h : Agree excused x x') (hx : x = .ok a) :
    x' = .ok a := by
  cases h with
  | value b => exact hx
  | failure h => cases hx

theorem excused_of_error {x x' : Except Failure α} {e : Failure} (h : Agree excused x x')
    (hx : x = .error e) : excused e (failureOf? x') := by
  cases h with
  | value b => cases hx
  | failure h =>
    cases hx
    exact h

theorem refl {x : Except Failure α} (h : ∀ e, x = .error e → excused e (some e)) :
    Agree excused x x := by
  cases x with
  | ok a => exact .value a
  | error e => exact .failure (h e rfl)

theorem of_ok {x x' : Except Failure α} (h : ∀ a, x = .ok a → x' = .ok a) :
    Agree (fun _ _ => True) x x' := by
  cases x with
  | error e => exact .failure trivial
  | ok a =>
    rw [h a rfl]
    exact .value a

end Agree

/-- Excused are the failures of a kind, and a failure that is that of both computations. -/
def Unless (kind : Failure → Prop) (e : Failure) (o : Option Failure) : Prop :=
  kind e ∨ o = some e

theorem Unless.of_none {kind : Failure → Prop} {e : Failure} {o : Option Failure}
    (h : Unless kind e none) : Unless kind e o := by
  rcases h with h | h
  · exact .inl h
  · cases h

theorem agree_unless_iff {kind : Failure → Prop} {α : Type} {x x' : Except Failure α} :
    Agree (Unless kind) x x' ↔ x = x' ∨ ∃ e, kind e ∧ x = .error e := by
  constructor
  · intro h
    cases h with
    | value a => exact .inl rfl
    | @failure e _ h =>
      rcases h with h | h
      · exact .inr ⟨e, h, rfl⟩
      · cases x' with
        | ok a => cases h
        | error e' =>
          obtain rfl : e' = e := Option.some.inj h
          exact .inl rfl
  · rintro (rfl | ⟨e, he, rfl⟩)
    · exact .refl (fun _ _ => .inr rfl)
    · exact .failure (.inl he)

theorem Agree.of_eq {kind : Failure → Prop} {α : Type} {x x' : Except Failure α} (h : x = x') :
    Agree (Unless kind) x x' :=
  agree_unless_iff.2 (.inl h)

/-! ### Simulations -/

open Renderer in
/-- How the rendering of `r` follows the rendering of `r'`: the frames and the scopes that belong
together, the nodes that may come up in a frame of `r`, and the failures of `r` that are excused, by
the failure of `r'` if it fails. -/
structure Simulation (r r' : Renderer) where
  frames : Frame → Frame → Prop
  scopes : Scope → Scope → Prop
  nodes : Frame → Node → Prop
  excused : Failure → Option Failure → Prop
  excused_of_none : ∀ e o, excused e none → excused e o
  excused_endless : excused .endless (some .endless)
  same_fillings : ∀ f f', frames f f' → SameFillings f.overrides f'.overrides
  agree_expression : ∀ f f' s s' e, frames f f' → scopes s s' → nodes f (.variable e) →
    Agree excused (r.renderExpression e s) (r'.renderExpression e s')
  agree_value : ∀ f f' s s' x path, frames f f' → scopes s s' → nodes f x → Tests x path →
    Agree excused (valueOf path s) (valueOf path s')
  agree_descend : ∀ f f', frames f f' → Agree excused (r.descend f) (r'.descend f')
  agree_enter : ∀ f f' x role name overrides, frames f f' → nodes f x →
    Asks f.overrides x role name overrides →
    Agree excused (r.enter f role name) (r'.enter f' role name)
  scopes_loop : ∀ f s s' path body items, scopes s s' → nodes f (.each path body) →
    valueOf path s = .ok (.list items) → ∀ item ∈ items,
    scopes (Value.loopScope s item) (Value.loopScope s' item)
  frames_loop : ∀ f f', frames f f' → frames (loopFrame f) (loopFrame f')
  frames_template : ∀ f f' x role name overrides overrides' ns, frames f f' → nodes f x →
    Asks f.overrides x role name overrides → Asks f'.overrides x role name overrides' →
    r.enter f role name = .ok ns →
    frames (templateFrame f name overrides) (templateFrame f' name overrides')
  nodes_within : ∀ f x y, nodes f x → Within f.overrides x y → nodes f y
  nodes_loop : ∀ f x, nodes f x → nodes (loopFrame f) x
  nodes_template : ∀ f f' x role name overrides ns, frames f f' → nodes f x →
    Asks f.overrides x role name overrides → r.enter f role name = .ok ns →
    ∀ y ∈ ns, nodes (templateFrame f name overrides) y

namespace Simulation

variable {r r' : Renderer} (S : Simulation r r')

def AgreeAt (f : Frame) (go go' : Scope → List Node → Outcome) : Prop :=
  ∀ s s' ns, S.scopes s s' → (∀ x ∈ ns, S.nodes f x) → Agree S.excused (go s ns) (go' s' ns)

/-- In these scopes the fillings of a frame are rendered in agreement. -/
def AgreeFillings (f : Frame) (s s' : Scope) (go go' : Scope → List Node → Outcome) : Prop :=
  ∀ name filling, f.overrides.lookup name = some filling → (∀ x ∈ filling, S.nodes f x) →
    Agree S.excused (go s filling) (go' s' filling)

/-- The level below a frame, where there is one, is rendered in agreement. -/
def AgreeBelow (f : Frame) : Prop :=
  (f.depth : Int) < r.maxDepth → ∀ g g', S.frames g g' → g.depth = f.depth + 1 →
    S.AgreeAt g (r.renderIn g) (r'.renderIn g')

variable {S}

theorem agree_bind {α β : Type} {x x' : Except Failure α} {g g' : α → Except Failure β}
    (h : Agree S.excused x x')
    (hg : ∀ a, x = .ok a → x' = .ok a → Agree S.excused (g a) (g' a)) :
    Agree S.excused (x >>= g) (x' >>= g') :=
  h.bind S.excused_of_none hg

theorem agree_renderItems {f : Frame} {go go' : Scope → List Node → Outcome}
    (h : S.AgreeAt f go go') {s s' : Scope} {body : List Node} (hb : ∀ x ∈ body, S.nodes f x)
    {items : List Value}
    (hs : ∀ item ∈ items, S.scopes (Value.loopScope s item) (Value.loopScope s' item))
    (done : String) :
    Agree S.excused (Renderer.renderItems go s body done items)
      (Renderer.renderItems go' s' body done items) := by
  induction items generalizing done with
  | nil => exact .value done
  | cons item rest ih =>
    have hi := h _ _ body (hs item List.mem_cons_self) hb
    have hrest := fun i hi => hs i (List.mem_cons_of_mem item hi)
    rw [Renderer.renderItems_cons, Renderer.renderItems_cons]
    exact agree_bind hi (fun text _ _ => ih hrest (done ++ text))

theorem agree_renderEach {f f' : Frame} (hf : S.frames f f')
    (hd : S.AgreeBelow f) {o o' : Scope → List Node → Outcome} {s s' : Scope}
    (hs : S.scopes s s') {path : String} {body : List Node} (hn : S.nodes f (.each path body)) :
    Agree S.excused (r.renderEach ⟨o, r.deeper? f⟩ f s path body)
      (r'.renderEach ⟨o', r'.deeper? f'⟩ f' s' path body) := by
  have hb : ∀ x ∈ body, S.nodes (Renderer.loopFrame f) x := fun x hx =>
    S.nodes_loop f x (S.nodes_within f _ x hn (.item hx))
  have hv := S.agree_value f f' s s' _ path hf hs hn (.each path body)
  rw [Renderer.renderEach_eq, Renderer.renderEach_eq]
  refine agree_bind hv (fun v hlist _ => ?_)
  split
  · exact .value ""
  · refine agree_bind (S.agree_descend f f' hf) (fun _ hu _ => ?_)
    have hg := hd (Renderer.descend_eq_ok_iff.1 hu) _ _ (S.frames_loop f f' hf) rfl
    exact agree_renderItems hg hb (S.scopes_loop f s s' path body _ hs hn hlist) ""
  · exact .value ""

theorem agree_renderNamed {f f' : Frame} (hf : S.frames f f')
    (hd : S.AgreeBelow f) {o o' : Scope → List Node → Outcome} {s s' : Scope}
    (hs : S.scopes s s') {x : Node} {role : Role} {name : String}
    {overrides overrides' : List (String × List Node)} (hn : S.nodes f x)
    (ha : Asks f.overrides x role name overrides)
    (ha' : Asks f'.overrides x role name overrides') :
    Agree S.excused (r.renderNamed ⟨o, r.deeper? f⟩ f s role name overrides)
      (r'.renderNamed ⟨o', r'.deeper? f'⟩ f' s' role name overrides') := by
  rw [Renderer.renderNamed_eq, Renderer.renderNamed_eq]
  refine agree_bind (S.agree_enter f f' x role name overrides hf hn ha) (fun ns hns _ => ?_)
  have hg := S.frames_template f f' x role name overrides overrides' ns hf hn ha ha' hns
  have hdepth := (Renderer.enter_eq_ok_iff.1 hns).2.1
  exact hd hdepth _ _ hg rfl s s' ns hs
    (S.nodes_template f f' x role name overrides ns hf hn ha hns)

mutual

theorem agree_renderNode {f f' : Frame} (hf : S.frames f f') (hd : S.AgreeBelow f)
    {s s' : Scope} (hs : S.scopes s s') {o o' : Scope → List Node → Outcome}
    (ho : S.AgreeFillings f s s' o o') (x : Node) (hx : S.nodes f x) :
    Agree S.excused (r.renderNode ⟨o, r.deeper? f⟩ f s x)
      (r'.renderNode ⟨o', r'.deeper? f'⟩ f' s' x) := by
  cases x with
  | text t => exact .value t
  | «variable» e => exact S.agree_expression f f' s s' e hf hs hx
  | conditional path negated body alternative =>
    have hc := S.agree_value f f' s s' _ path hf hs hx (.conditional path negated body alternative)
    have hb := agree_renderNodes hf hd hs ho body ""
      (fun y hy => S.nodes_within f _ y hx (.body hy))
    have ha := agree_renderNodes hf hd hs ho alternative ""
      (fun y hy => S.nodes_within f _ y hx (.alternative hy))
    rw [Renderer.renderNode_conditional, Renderer.renderNode_conditional]
    refine agree_bind hc (fun v _ _ => ?_)
    split
    · exact hb
    · exact ha
  | each path body => exact agree_renderEach hf hd hs hx
  | part name => exact agree_renderNamed hf hd hs hx (.part name) (.part name)
  | block name body =>
    have hb := agree_renderNodes hf hd hs ho body ""
    rw [Renderer.renderNode_block, Renderer.renderNode_block, ← S.same_fillings f f' hf name]
    cases hl : f.overrides.lookup name with
    | some filling =>
      exact ho name filling hl (fun y hy => S.nodes_within f _ y hx (.filling hl hy))
    | none => exact hb (fun y hy => S.nodes_within f _ y hx (.default hl hy))
  | layout name fillings =>
    simp only [Renderer.renderNode]
    exact agree_renderNamed hf hd hs hx (.layout name fillings) (.layout name fillings)

theorem agree_renderNodes {f f' : Frame} (hf : S.frames f f') (hd : S.AgreeBelow f)
    {s s' : Scope} (hs : S.scopes s s') {o o' : Scope → List Node → Outcome}
    (ho : S.AgreeFillings f s s' o o') (ns : List Node) (done : String)
    (hns : ∀ x ∈ ns, S.nodes f x) :
    Agree S.excused (r.renderNodes ⟨o, r.deeper? f⟩ f s done ns)
      (r'.renderNodes ⟨o', r'.deeper? f'⟩ f' s' done ns) := by
  cases ns with
  | nil => exact .value done
  | cons x rest =>
    have hx := agree_renderNode hf hd hs ho x (hns x List.mem_cons_self)
    rw [Renderer.renderNodes_cons, Renderer.renderNodes_cons]
    refine agree_bind hx (fun t _ _ => ?_)
    exact agree_renderNodes hf hd hs ho rest (done ++ t)
      (fun y hy => hns y (List.mem_cons_of_mem _ hy))

end

theorem agree_renderLevel {f f' : Frame} (hf : S.frames f f') (hd : S.AgreeBelow f) (n : Nat) :
    S.AgreeAt f (r.renderLevel (r.deeper? f) f n) (r'.renderLevel (r'.deeper? f') f' n) := by
  induction n with
  | zero =>
    intro s s' ns hs hns
    have ho : S.AgreeFillings f s s' (fun _ _ => .error .endless) (fun _ _ => .error .endless) :=
      fun _ _ _ _ => .failure S.excused_endless
    exact agree_renderNodes hf hd hs ho ns "" hns
  | succ n ih =>
    intro s s' ns hs hns
    exact agree_renderNodes hf hd hs (fun _ filling _ hx => ih s s' filling hs hx) ns "" hns

end Simulation

/-! ### Two renderings of one tree -/

open Renderer in
/-- Two renderings of one tree in one scope, in which any node may come up. -/
structure Lockstep (r r' : Renderer) where
  frames : Frame → Frame → Prop
  excused : Failure → Option Failure → Prop
  excused_of_none : ∀ e, excused e none → ∀ o, excused e o
  excused_self : ∀ e, excused e (some e)
  same_fillings : ∀ f f', frames f f' → SameFillings f.overrides f'.overrides
  agree_expression : ∀ e s, Agree excused (r.renderExpression e s) (r'.renderExpression e s)
  agree_descend : ∀ f f', frames f f' → Agree excused (r.descend f) (r'.descend f')
  agree_enter : ∀ f f' role name, frames f f' →
    Agree excused (r.enter f role name) (r'.enter f' role name)
  frames_loop : ∀ f f', frames f f' → frames (loopFrame f) (loopFrame f')
  frames_template : ∀ f f' x role name overrides overrides', frames f f' →
    Asks f.overrides x role name overrides → Asks f'.overrides x role name overrides' →
    frames (templateFrame f name overrides) (templateFrame f' name overrides')

theorem Asks.templateFrame_eq {f f' : Frame} {x : Node} {role : Role} {name : String}
    {overrides overrides' : List (String × List Node)} (ha : Asks f.overrides x role name overrides)
    (h : f = f') (ha' : Asks f'.overrides x role name overrides') :
    Renderer.templateFrame f name overrides = Renderer.templateFrame f' name overrides' := by
  subst h
  rw [ha.eq ha']

namespace Lockstep

theorem loopScope_eq {s s' : Scope} (h : s = s') (item : Value) :
    Value.loopScope s item = Value.loopScope s' item := by
  rw [h]

variable {r r' : Renderer} (L : Lockstep r r')

/-- The simulation in which scopes are the same and any node may come up. -/
def simulation : Simulation r r' where
  frames := L.frames
  scopes s s' := s = s'
  nodes _ _ := True
  excused := L.excused
  excused_of_none e o h := L.excused_of_none e h o
  excused_endless := L.excused_self .endless
  same_fillings := L.same_fillings
  agree_expression := by
    rintro f f' s _ e - rfl -
    exact L.agree_expression e s
  agree_value := by
    rintro f f' s _ x path - rfl - -
    exact .refl (fun e _ => L.excused_self e)
  agree_descend := L.agree_descend
  agree_enter f f' _ role name _ h _ _ := L.agree_enter f f' role name h
  scopes_loop _ _ _ _ _ _ h _ _ item _ := loopScope_eq h item
  frames_loop := L.frames_loop
  frames_template f f' x role name overrides overrides' _ h _ ha ha' _ :=
    L.frames_template f f' x role name overrides overrides' h ha ha'
  nodes_within _ _ _ _ _ := trivial
  nodes_loop _ _ _ := trivial
  nodes_template _ _ _ _ _ _ _ _ _ _ _ _ _ := trivial

end Lockstep

/-! ### How often a level is left -/

def fillingNames (es : List (String × List Node)) : Finset String := (es.map Prod.fst).toFinset

theorem mem_fillingNames {es : List (String × List Node)} {name : String} {filling : List Node}
    (h : es.lookup name = some filling) : name ∈ fillingNames es :=
  List.mem_toFinset.2 (List.mem_map.2 ⟨(name, filling), mem_of_lookup h, rfl⟩)

/-- A chain of subsets of a finite set stands still before it has grown more often than the set has
members. -/
theorem exists_eq_succ_of_chain {α : Type} {U : Finset α} {S : Nat → Finset α}
    (hU : ∀ n, S n ⊆ U) (hS : ∀ n, S n ⊆ S (n + 1)) : ∃ n ≤ U.card, S n = S (n + 1) := by
  by_contra h
  have hgrows : ∀ n ≤ U.card, (S n).card < (S (n + 1)).card := by
    intro n hn
    refine Finset.card_lt_card (Finset.ssubset_iff_subset_ne.2 ⟨hS n, fun he => h ⟨n, hn, he⟩⟩)
  have hcard : ∀ n ≤ U.card + 1, n ≤ (S n).card := by
    intro n
    induction n with
    | zero =>
      intro _
      exact Nat.zero_le _
    | succ n ih =>
      intro hn
      have hlt := hgrows n (by omega)
      have hle := ih (by omega)
      omega
  have hlast := hcard (U.card + 1) le_rfl
  have hbound := Finset.card_le_card (hU (U.card + 1))
  omega

namespace Renderer

variable {r : Renderer} {f : Frame} {s : Scope}

/-- Two frames that give every block the same filling and are otherwise the same. -/
structure Alike (f f' : Frame) : Prop where
  depth : f.depth = f'.depth
  stack : f.stack = f'.stack
  name : f.name = f'.name
  fillings : SameFillings f.overrides f'.overrides

theorem Alike.of_eq {f f' : Frame} (h : f = f') : Alike f f' := by
  subst h
  exact ⟨rfl, rfl, rfl, fun _ => rfl⟩

theorem sameFillings_of_eq {f f' : Frame} (h : f = f') : SameFillings f.overrides f'.overrides :=
  (Alike.of_eq h).fillings

theorem Alike.symm {f f' : Frame} (h : Alike f f') : Alike f' f :=
  ⟨h.depth.symm, h.stack.symm, h.name.symm, fun name => (h.fillings name).symm⟩

theorem Alike.descend {f f' : Frame} (h : Alike f f') : r.descend f = r.descend f' := by
  simp only [Renderer.descend, faultIn, h.depth, h.name]

theorem Alike.enter {f f' : Frame} (h : Alike f f') (role : Role) (name : String) :
    r.enter f role name = r.enter f' role name := by
  simp only [Renderer.enter, faultIn, h.descend, h.stack, h.name]

theorem Alike.loop {f f' : Frame} (h : Alike f f') : Alike (loopFrame f) (loopFrame f') :=
  ⟨congrArg (· + 1) h.depth, h.stack, h.name, h.fillings⟩

theorem Alike.template {f f' : Frame} (h : Alike f f') {x : Node} {role : Role} {name : String}
    {overrides overrides' : List (String × List Node)} (ha : Asks f.overrides x role name overrides)
    (ha' : Asks f'.overrides x role name overrides') :
    Alike (templateFrame f name overrides) (templateFrame f' name overrides') :=
  ⟨congrArg (· + 1) h.depth, congrArg (· ++ [name]) h.stack, rfl, ha.sameFillings ha' h.fillings⟩

/-- Frames that are alike, in a relation that goes over to the frames below them. -/
structure Likeness where
  rel : Frame → Frame → Prop
  alike : ∀ f f', rel f f' → Alike f f'
  loop : ∀ f f', rel f f' → rel (loopFrame f) (loopFrame f')
  template : ∀ f f' x role name overrides overrides', rel f f' →
    Asks f.overrides x role name overrides → Asks f'.overrides x role name overrides' →
    rel (templateFrame f name overrides) (templateFrame f' name overrides')

/-- A rendering beside itself in frames that are alike, where blocks without end are excused. -/
def beside (r : Renderer) (L : Likeness) : Lockstep r r where
  frames := L.rel
  excused := Unless (· = .endless)
  excused_of_none _ h _ := h.of_none
  excused_self _ := .inr rfl
  same_fillings f f' h := (L.alike f f' h).fillings
  agree_expression _ _ := .of_eq rfl
  agree_descend f f' h := .of_eq (L.alike f f' h).descend
  agree_enter f f' role name h := .of_eq ((L.alike f f' h).enter role name)
  frames_loop := L.loop
  frames_template := L.template

def sameFrame : Likeness where
  rel f f' := f = f'
  alike _ _ h := .of_eq h
  loop _ _ h := congrArg loopFrame h
  template _ _ _ _ _ _ _ h ha ha' := ha.templateFrame_eq h ha'

def alikeFrames : Likeness where
  rel := Alike
  alike _ _ h := h
  loop _ _ h := h.loop
  template _ _ _ _ _ _ _ h ha ha' := h.template ha ha'

theorem agree_unless_endless_iff {x x' : Outcome} :
    Agree (Unless (· = .endless)) x x' ↔ x = .error .endless ∨ x = x' := by
  rw [agree_unless_iff, exists_eq_left]
  exact or_comm

theorem eq_of_endless_or {x x' : Outcome} (h : x = .error .endless ∨ x = x')
    (h' : x' = .error .endless ∨ x' = x) : x = x' := by
  rcases h with h | h
  · rcases h' with h' | h'
    · rw [h, h']
    · exact h'.symm
  · exact h

/-- What a filling gives on a level that may be left so often. -/
def refill (r : Renderer) (f : Frame) : Nat → Scope → List Node → Outcome
  | 0 => fun _ _ => .error .endless
  | n + 1 => r.renderLevel (r.deeper? f) f n

theorem renderLevel_eq (n : Nat) (ns : List Node) :
    r.renderLevel (r.deeper? f) f n s ns =
      r.renderNodes ⟨r.refill f n, r.deeper? f⟩ f s "" ns := by
  cases n <;> rfl

theorem renderLevel_of_refill {m n : Nat}
    (h : ∀ name filling, f.overrides.lookup name = some filling →
      r.refill f m s filling = .error .endless ∨ r.refill f m s filling = r.refill f n s filling)
    (ns : List Node) :
    r.renderLevel (r.deeper? f) f m s ns = .error .endless ∨
      r.renderLevel (r.deeper? f) f m s ns = r.renderLevel (r.deeper? f) f n s ns := by
  have hd : (r.beside sameFrame).simulation.AgreeBelow f := by
    rintro - g _ rfl - s _ ns rfl -
    exact .of_eq rfl
  have ho : (r.beside sameFrame).simulation.AgreeFillings f s s (r.refill f m) (r.refill f n) :=
    fun name filling hl _ => agree_unless_endless_iff.2 (h name filling hl)
  rw [renderLevel_eq, renderLevel_eq]
  exact agree_unless_endless_iff.1
    (Simulation.agree_renderNodes (S := (r.beside sameFrame).simulation) rfl hd rfl ho ns ""
      (fun _ _ => trivial))

/-- Leaving a level more often changes nothing but blocks without end. -/
theorem refill_succ (n : Nat) (ns : List Node) :
    r.refill f n s ns = .error .endless ∨ r.refill f n s ns = r.refill f (n + 1) s ns := by
  induction n generalizing ns with
  | zero => exact .inl rfl
  | succ n ih => exact renderLevel_of_refill (fun _ filling _ => ih filling) ns

/-- The fillings of a frame are what they are with one count more. -/
def Settled (r : Renderer) (f : Frame) (s : Scope) (n : Nat) : Prop :=
  ∀ name filling, f.overrides.lookup name = some filling →
    r.refill f n s filling = r.refill f (n + 1) s filling

theorem Settled.renderLevel {n : Nat} (h : r.Settled f s n) (ns : List Node) :
    r.renderLevel (r.deeper? f) f n s ns = r.renderLevel (r.deeper? f) f (n + 1) s ns := by
  have hto := renderLevel_of_refill (fun name filling hl => .inr (h name filling hl)) ns
  have hfrom := renderLevel_of_refill (fun name filling hl => .inr (h name filling hl).symm) ns
  exact eq_of_endless_or hto hfrom

theorem Settled.of_le {m n : Nat} (h : r.Settled f s m) (hn : m ≤ n) : r.Settled f s n := by
  induction n, hn using Nat.le_induction with
  | base => exact h
  | succ n _ ih =>
    intro name filling _
    exact ih.renderLevel filling

theorem Settled.renderLevel_of_le {m n : Nat} (h : r.Settled f s m) (hn : m ≤ n)
    (ns : List Node) :
    r.renderLevel (r.deeper? f) f n s ns = r.renderLevel (r.deeper? f) f m s ns := by
  induction n, hn using Nat.le_induction with
  | base => rfl
  | succ n hn ih => rw [← (h.of_le hn).renderLevel, ih]

open Classical in
/-- The names whose filling does with leaving the level so often. -/
noncomputable def settledNames (r : Renderer) (f : Frame) (s : Scope) (n : Nat) : Finset String :=
  (fillingNames f.overrides).filter (fun name => ∃ filling,
    f.overrides.lookup name = some filling ∧ r.refill f n s filling ≠ .error .endless)

theorem mem_settledNames {n : Nat} {name : String} {filling : List Node}
    (h : f.overrides.lookup name = some filling) :
    name ∈ r.settledNames f s n ↔ r.refill f n s filling ≠ .error .endless := by
  simp [settledNames, mem_fillingNames h, h]

theorem settledNames_subset_succ (n : Nat) :
    r.settledNames f s n ⊆ r.settledNames f s (n + 1) := by
  intro name hm
  obtain ⟨-, filling, hl, hne⟩ := Finset.mem_filter.1 hm
  have he := (refill_succ n filling).resolve_left hne
  exact (mem_settledNames hl).2 (he ▸ hne)

theorem settled_of_settledNames_eq {n : Nat}
    (h : r.settledNames f s n = r.settledNames f s (n + 1)) : r.Settled f s n := by
  intro name filling hl
  rcases refill_succ n filling with he | he
  · have hn : name ∉ r.settledNames f s (n + 1) := by
      rw [← h, mem_settledNames hl]
      exact fun hne => hne he
    rw [mem_settledNames hl, not_not] at hn
    rw [he, hn]
  · exact he

/-- **The number of fillings is enough**: a level that may be left more often gives the same. -/
theorem renderLevel_of_length_le {n : Nat} (h : f.overrides.length ≤ n) (ns : List Node) :
    r.renderLevel (r.deeper? f) f n s ns = r.renderIn f s ns := by
  obtain ⟨m, hm, he⟩ := exists_eq_succ_of_chain (fun _ => Finset.filter_subset _ _)
    (settledNames_subset_succ (r := r) (f := f) (s := s))
  have hlength : m ≤ f.overrides.length := by
    have hcard := List.toFinset_card_le (f.overrides.map Prod.fst)
    rw [List.length_map] at hcard
    exact hm.trans hcard
  have hsettled := settled_of_settledNames_eq he
  rw [renderIn_eq, hsettled.renderLevel_of_le (hlength.trans h),
    hsettled.renderLevel_of_le hlength]

end Renderer

/-! ### The result -/

namespace Simulation

variable {r r' : Renderer} {S : Simulation r r'}

theorem agree_renderIn_of_below {f f' : Frame} (hf : S.frames f f') (hd : S.AgreeBelow f) :
    S.AgreeAt f (r.renderIn f) (r'.renderIn f') := by
  intro s s' ns hs hns
  -- one count for both, as their lists of fillings may differ in length
  rw [← Renderer.renderLevel_of_length_le (Nat.le_max_left _ f'.overrides.length) ns,
    ← Renderer.renderLevel_of_length_le (Nat.le_max_right f.overrides.length _) ns]
  exact agree_renderLevel hf hd _ s s' ns hs hns

/-- **The first rendering follows the second one.** In frames and scopes that belong together, a
tree of nodes that may come up gives the same text, or its failure is excused. -/
theorem agree_renderIn {f f' : Frame} (hf : S.frames f f') :
    S.AgreeAt f (r.renderIn f) (r'.renderIn f') := by
  -- on the number of levels below the frame
  induction hn : (r.maxDepth - f.depth).toNat generalizing f f' with
  | zero => exact agree_renderIn_of_below hf (fun hlt => by omega)
  | succ n ih =>
    exact agree_renderIn_of_below hf (fun hlt g g' hg hdepth => ih hg (by omega))

end Simulation

theorem Lockstep.agree_renderIn {r r' : Renderer} (L : Lockstep r r') {f f' : Frame}
    (h : L.frames f f') (s : Scope) (ns : List Node) :
    Agree L.excused (r.renderIn f s ns) (r'.renderIn f' s ns) :=
  L.simulation.agree_renderIn h s s ns rfl (fun _ _ => trivial)

namespace Renderer

/-- In frames that are alike the same comes out: of fillings only counts which one a block has. -/
theorem Alike.renderIn {r : Renderer} {f f' : Frame} (h : Alike f f') (s : Scope)
    (ns : List Node) : r.renderIn f s ns = r.renderIn f' s ns := by
  have hto := agree_unless_endless_iff.1 ((r.beside alikeFrames).agree_renderIn h s ns)
  have hfrom := agree_unless_endless_iff.1 ((r.beside alikeFrames).agree_renderIn h.symm s ns)
  exact eq_of_endless_or hto hfrom

end Renderer

/-! ### Invariants -/

open Renderer in
/-- What one rendering keeps, and the failures that it may end in: a simulation of the rendering by
itself. -/
structure Invariant (r : Renderer) where
  frames : Frame → Prop
  scopes : Scope → Prop
  nodes : Frame → Node → Prop
  failures : Failure → Prop
  failures_endless : failures .endless
  failures_expression : ∀ f s e failure, frames f → scopes s → nodes f (.variable e) →
    r.renderExpression e s = .error failure → failures failure
  failures_value : ∀ f s x path failure, frames f → scopes s → nodes f x → Tests x path →
    valueOf path s = .error failure → failures failure
  failures_descend : ∀ f failure, frames f → r.descend f = .error failure → failures failure
  failures_enter : ∀ f x role name overrides failure, frames f → nodes f x →
    Asks f.overrides x role name overrides → r.enter f role name = .error failure →
    failures failure
  scopes_loop : ∀ f s path body items, scopes s → nodes f (.each path body) →
    valueOf path s = .ok (.list items) → ∀ item ∈ items, scopes (Value.loopScope s item)
  frames_loop : ∀ f, frames f → frames (loopFrame f)
  frames_template : ∀ f x role name overrides ns, frames f → nodes f x →
    Asks f.overrides x role name overrides → r.enter f role name = .ok ns →
    frames (templateFrame f name overrides)
  nodes_within : ∀ f x y, nodes f x → Within f.overrides x y → nodes f y
  nodes_loop : ∀ f x, nodes f x → nodes (loopFrame f) x
  nodes_template : ∀ f x role name overrides ns, frames f → nodes f x →
    Asks f.overrides x role name overrides → r.enter f role name = .ok ns →
    ∀ y ∈ ns, nodes (templateFrame f name overrides) y

namespace Invariant

variable {r : Renderer} (I : Invariant r)

def simulation : Simulation r r where
  frames f f' := f = f' ∧ I.frames f
  scopes s s' := s = s' ∧ I.scopes s
  nodes := I.nodes
  excused e _ := I.failures e
  excused_of_none _ _ h := h
  excused_endless := I.failures_endless
  same_fillings := by
    rintro f _ ⟨rfl, -⟩ name
    rfl
  agree_expression := by
    rintro f _ s _ e ⟨rfl, hf⟩ ⟨rfl, hs⟩ hx
    exact .refl (fun failure h => I.failures_expression f s e failure hf hs hx h)
  agree_value := by
    rintro f _ s _ x path ⟨rfl, hf⟩ ⟨rfl, hs⟩ hx ht
    exact .refl (fun failure h => I.failures_value f s x path failure hf hs hx ht h)
  agree_descend := by
    rintro f _ ⟨rfl, hf⟩
    exact .refl (fun failure h => I.failures_descend f failure hf h)
  agree_enter := by
    rintro f _ x role name overrides ⟨rfl, hf⟩ hx ha
    exact .refl (fun failure h => I.failures_enter f x role name overrides failure hf hx ha h)
  scopes_loop := by
    rintro f s _ path body items ⟨rfl, hs⟩ hx hv item hi
    exact ⟨rfl, I.scopes_loop f s path body items hs hx hv item hi⟩
  frames_loop := by
    rintro f _ ⟨rfl, hf⟩
    exact ⟨rfl, I.frames_loop f hf⟩
  frames_template := by
    rintro f _ x role name overrides overrides' ns ⟨rfl, hf⟩ hx ha ha' he
    exact ⟨by rw [ha.eq ha'], I.frames_template f x role name overrides ns hf hx ha he⟩
  nodes_within := I.nodes_within
  nodes_loop := I.nodes_loop
  nodes_template := by
    rintro f _ x role name overrides ns ⟨rfl, hf⟩ hx ha he
    exact I.nodes_template f x role name overrides ns hf hx ha he

variable {I}

/-- A rendering that starts within an invariant fails only as the invariant allows. -/
theorem failures_of_renderIn {f : Frame} {s : Scope} {ns : List Node} {e : Failure}
    (hf : I.frames f) (hs : I.scopes s) (hns : ∀ x ∈ ns, I.nodes f x)
    (h : r.renderIn f s ns = .error e) : I.failures e := by
  have hframes : I.simulation.frames f f := ⟨rfl, hf⟩
  have hagree := I.simulation.agree_renderIn hframes s s ns ⟨rfl, hs⟩ hns
  exact hagree.excused_of_error h

end Invariant

end SiteTemplates
