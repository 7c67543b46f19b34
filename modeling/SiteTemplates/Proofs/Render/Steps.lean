import Mathlib.Logic.Function.Iterate
import SiteTemplates.Proofs.Render.Failures
import SiteTemplates.Proofs.Render.Recursion

/-!
# Rendering step by step

Rendering as a machine.  Its state is the text so far and a stack of tasks, and one step takes the
first node, or the first item of a loop, from the task on top.  Nothing is counted: a filling is put
on the stack whenever a block asks for it, so the machine may go on for ever.

What a visit of a node may leave is said once (`leaves_of_visit`), and so is how it may fail
(`fails_of_visit`).  A task that is put on the stack belongs to the frame at hand or to one that
follows it (`Leaves.follows`), and no frame follows beyond the limit or by a name that is being
expanded.  So all frames that are ever reached keep to the limits (`Reaches.guarded`).
-/

namespace SiteTemplates

inductive Task where
  | nodes (frame : Frame) (scope : Scope) (ns : List Node)
  | items (frame : Frame) (scope : Scope) (body : List Node) (values : List Value)

def Task.frame : Task → Frame
  | .nodes f _ _ => f
  | .items f _ _ _ => f

inductive Progress where
  | going (done : String) (tasks : List Task)
  | ended (outcome : Outcome)

namespace Progress

/-- The frames in which something is still to be rendered. -/
def frames : Progress → List Frame
  | .going _ tasks => tasks.map Task.frame
  | .ended _ => []

/-- The outcome, at the end. -/
def outcome? : Progress → Option Outcome
  | .going _ _ => none
  | .ended o => some o

/-- What follows when the task on top has come to its outcome. -/
def after (done : String) (tasks : List Task) : Outcome → Progress
  | .ok t => .going (done ++ t) tasks
  | .error e => .ended (.error e)

end Progress

namespace Renderer

variable (r : Renderer)

/-- The text that a node gives at once and the tasks that it leaves. -/
def visit (f : Frame) (s : Scope) : Node → Except Failure (String × List Task)
  | .text t => .ok (t, [])
  | .variable e => do
    let t ← r.renderExpression e s
    return (t, [])
  | .conditional path negated body alternative => do
    let v ← valueOf path s
    return ("", [.nodes f s (if v.isTrue != negated then body else alternative)])
  | .each path body => do
    let v ← valueOf path s
    if itemsOf v = [] then return ("", [])
    else
      r.descend f
      return ("", [.items (loopFrame f) s body (itemsOf v)])
  | .part name => do
    let ns ← r.enter f .part name
    return ("", [.nodes (templateFrame f name []) s ns])
  | .block name body => .ok ("", [.nodes f s ((f.overrides.lookup name).getD body)])
  | .layout name fillings => do
    let ns ← r.enter f .layout name
    return ("", [.nodes (templateFrame f name (f.overrides ++ fillings.reverse)) s ns])

/-- One step. -/
def step : Progress → Progress
  | .ended o => .ended o
  | .going done [] => .ended (.ok done)
  | .going done (.items _ _ _ [] :: rest) => .going done rest
  | .going done (.items f s body (v :: values) :: rest) =>
    .going done (.nodes f (Value.loopScope s v) body :: .items f s body values :: rest)
  | .going done (.nodes _ _ [] :: rest) => .going done rest
  | .going done (.nodes f s (x :: ns) :: rest) =>
    match r.visit f s x with
    | .ok (t, tasks) => .going (done ++ t) (tasks ++ .nodes f s ns :: rest)
    | .error e => .ended (.error e)

/-- The rendering of a request before its first step. -/
def start (now : Moment) (context : Value) (q : Request) : Progress :=
  match r.prepare now context q with
  | .ok (scope, ns) => .going "" [.nodes q.frame scope ns]
  | .error e => .ended (.error e)

/-- Some number of steps leads from one state to another one. -/
def Reaches (p p' : Progress) : Prop := ∃ n, r.step^[n] p = p'

variable {r}

/-! ### Runs -/

theorem Reaches.refl (p : Progress) : r.Reaches p p := ⟨0, rfl⟩

theorem Reaches.trans {p q u : Progress} (h : r.Reaches p q) (h' : r.Reaches q u) :
    r.Reaches p u := by
  obtain ⟨n, rfl⟩ := h
  obtain ⟨m, rfl⟩ := h'
  exact ⟨m + n, Function.iterate_add_apply _ _ _ _⟩

theorem Reaches.of_step {p q u : Progress} (hs : r.step p = q) (h : r.Reaches q u) :
    r.Reaches p u := by
  obtain ⟨n, rfl⟩ := h
  exact ⟨n + 1, by rw [Function.iterate_succ_apply, hs]⟩

/-- What every step keeps is kept by a run. -/
theorem Reaches.invariant {I : Progress → Prop} (hI : ∀ p, I p → I (r.step p)) {p q : Progress}
    (h : r.Reaches p q) (hp : I p) : I q := by
  obtain ⟨n, rfl⟩ := h
  induction n with
  | zero => exact hp
  | succ n ih =>
    rw [Function.iterate_succ_apply']
    exact hI _ ih

theorem iterate_ended (o : Outcome) (n : Nat) : r.step^[n] (.ended o) = .ended o := by
  induction n with
  | zero => rfl
  | succ n ih => rw [Function.iterate_succ_apply', ih, step]

/-- A rendering that has ended stays at its end. -/
theorem iterate_of_ended {p : Progress} {o : Outcome} {n m : Nat} (h : r.step^[n] p = .ended o)
    (hm : n ≤ m) : r.step^[m] p = .ended o := by
  obtain ⟨k, rfl⟩ := Nat.exists_eq_add_of_le hm
  rw [Nat.add_comm, Function.iterate_add_apply, h, iterate_ended]

/-- What a rendering reaches that ends after some steps: what it was at before, or its end. -/
theorem Reaches.eq_iterate_or_ended {p q : Progress} {o : Outcome} {n : Nat} (h : r.Reaches p q)
    (hn : r.step^[n] p = .ended o) : (∃ i < n, r.step^[i] p = q) ∨ q = .ended o := by
  obtain ⟨m, rfl⟩ := h
  rcases Nat.lt_or_ge m n with hm | hm
  · exact .inl ⟨m, hm, rfl⟩
  · exact .inr (iterate_of_ended hn hm)

/-! ### Visits -/

variable (r)

/-- The tasks that a visit leaves: none, or nodes in the frame at hand, or the body of a loop or the
tree of another template, one level deeper. -/
inductive Leaves (f : Frame) (s : Scope) : List Task → Prop
  | nothing : Leaves f s []
  | nodes (ns : List Node) : Leaves f s [.nodes f s ns]
  | loop {path : String} {v : Value} (body : List Node) (hv : valueOf path s = .ok v)
      (hd : (f.depth : Int) < r.maxDepth) : Leaves f s [.items (loopFrame f) s body (itemsOf v)]
  | template {role : Role} {name : String} {ns : List Node} (he : r.enter f role name = .ok ns)
      (overrides : List (String × List Node)) :
      Leaves f s [.nodes (templateFrame f name overrides) s ns]

inductive Fails (f : Frame) (s : Scope) : Node → Failure → Prop
  | expression {y : Expression} {e : Failure} (h : r.renderExpression y s = .error e) :
      Fails f s (.variable y) e
  | test {x : Node} {path : String} {e : Failure} (ht : Tests x path)
      (h : valueOf path s = .error e) : Fails f s x e
  | depth (x : Node) : Fails f s x (faultIn f (.tooDeep r.maxDepth))
  | enter {x : Node} {role : Role} {name : String} {e : Failure}
      (h : r.enter f role name = .error e) : Fails f s x e

variable {r}

theorem leaves_of_visit {f : Frame} {s : Scope} {x : Node} {t : String} {tasks : List Task}
    (h : r.visit f s x = .ok (t, tasks)) : r.Leaves f s tasks := by
  cases x with
  | text u =>
    cases h
    exact .nothing
  | «variable» e =>
    obtain ⟨u, -, h⟩ := ok_of_bind h
    cases h
    exact .nothing
  | conditional path negated body alternative =>
    obtain ⟨v, -, h⟩ := ok_of_bind h
    cases h
    exact .nodes _
  | each path body =>
    obtain ⟨v, hv, h⟩ := ok_of_bind h
    split at h
    · cases h
      exact .nothing
    · obtain ⟨_, hd, h⟩ := ok_of_bind h
      cases h
      exact .loop body hv (descend_eq_ok_iff.1 hd)
  | part name =>
    obtain ⟨ns, he, h⟩ := ok_of_bind h
    cases h
    exact .template he []
  | block name body =>
    cases h
    exact .nodes _
  | layout name fillings =>
    obtain ⟨ns, he, h⟩ := ok_of_bind h
    cases h
    exact .template he _

theorem fails_of_visit {f : Frame} {s : Scope} {x : Node} {e : Failure}
    (h : r.visit f s x = .error e) : r.Fails f s x e := by
  cases x with
  | text t => cases h
  | «variable» y =>
    rcases error_of_bind h with h | ⟨t, -, h⟩
    · exact .expression h
    · cases h
  | conditional path negated body alternative =>
    rcases error_of_bind h with h | ⟨v, -, h⟩
    · exact .test (.conditional path negated body alternative) h
    · cases h
  | each path body =>
    rcases error_of_bind h with h | ⟨v, -, h⟩
    · exact .test (.each path body) h
    · split at h
      · cases h
      · rcases error_of_bind h with h | ⟨_, -, h⟩
        · rw [error_of_descend h]
          exact .depth _
        · cases h
  | part name =>
    rcases error_of_bind h with h | ⟨ns, -, h⟩
    · exact .enter h
    · cases h
  | block name body => cases h
  | layout name fillings =>
    rcases error_of_bind h with h | ⟨ns, -, h⟩
    · exact .enter h
    · cases h

/-! ### Frames -/

variable (r)

/-- One frame follows another one: it is the frame of a loop, or that of a template which is not
being expanded, and the limit is not reached before. -/
inductive Follows : Frame → Frame → Prop
  | loop {f : Frame} (h : (f.depth : Int) < r.maxDepth) : Follows f (loopFrame f)
  | template {f : Frame} {name : String} (h : (f.depth : Int) < r.maxDepth)
      (hs : name ∉ f.stack) (overrides : List (String × List Node)) :
      Follows f (templateFrame f name overrides)

/-- A frame keeps to the limits: it lies no deeper than is accepted, and no template is expanded
inside of itself. -/
structure Guarded (f : Frame) : Prop where
  depth : f.depth = 0 ∨ (f.depth : Int) ≤ r.maxDepth
  nodup : f.stack.Nodup
  length : f.stack.length ≤ f.depth + 1

variable {r}

theorem Follows.guarded {f g : Frame} (h : r.Follows f g) (hf : r.Guarded f) : r.Guarded g := by
  cases h with
  | loop h =>
    have hlength := hf.length
    refine ⟨.inr ?_, hf.nodup, ?_⟩
    · simp only [loopFrame]
      omega
    · simp only [loopFrame]
      omega
  | @template name h hs overrides =>
    have hlength := hf.length
    refine ⟨.inr ?_, ?_, ?_⟩
    · simp only [templateFrame]
      omega
    · refine List.nodup_append.2 ⟨hf.nodup, List.nodup_singleton name, ?_⟩
      rintro a ha b hb rfl
      exact hs (List.mem_singleton.1 hb ▸ ha)
    · simp only [templateFrame, List.length_append, List.length_singleton]
      omega

theorem Leaves.follows {f : Frame} {s : Scope} {tasks : List Task} (h : r.Leaves f s tasks)
    {task : Task} (ht : task ∈ tasks) : task.frame = f ∨ r.Follows f task.frame := by
  cases h with
  | nothing => cases ht
  | nodes ns =>
    obtain rfl := List.mem_singleton.1 ht
    exact .inl rfl
  | loop body hv hd =>
    obtain rfl := List.mem_singleton.1 ht
    exact .inr (.loop hd)
  | template he overrides =>
    obtain rfl := List.mem_singleton.1 ht
    obtain ⟨hs, hd, -⟩ := enter_eq_ok_iff.1 he
    exact .inr (.template hd hs overrides)

/-- After a step every frame was there before, or follows one that was. -/
theorem follows_of_step {p : Progress} {g : Frame} (h : g ∈ (r.step p).frames) :
    ∃ f ∈ p.frames, g = f ∨ r.Follows f g := by
  have hkeep : ∀ (done : String) {task : Task} {tasks : List Task},
      g ∈ (Progress.going done tasks).frames →
      ∃ f ∈ (Progress.going done (task :: tasks)).frames, g = f ∨ r.Follows f g :=
    fun _ _ _ h => ⟨g, List.mem_cons_of_mem _ h, .inl rfl⟩
  cases p with
  | ended o => cases h
  | going done tasks =>
    match tasks with
    | [] => cases h
    | .items f s body [] :: rest => exact hkeep done h
    | .items f s body (v :: values) :: rest =>
      rcases List.mem_cons.1 h with rfl | h
      · exact ⟨_, List.mem_cons_self, .inl rfl⟩
      · exact ⟨g, h, .inl rfl⟩
    | .nodes f s [] :: rest => exact hkeep done h
    | .nodes f s (x :: ns) :: rest =>
      simp only [step] at h
      split at h
      · rename_i t tasks hv
        simp only [Progress.frames, List.map_append, List.map_cons, List.mem_append] at h
        rcases h with h | h
        · obtain ⟨task, ht, rfl⟩ := List.mem_map.1 h
          exact ⟨f, List.mem_cons_self, (leaves_of_visit hv).follows ht⟩
        · exact ⟨g, h, .inl rfl⟩
      · cases h

theorem guarded_frame (q : Request) : r.Guarded q.frame := by
  cases q with
  | source text => exact ⟨.inl rfl, List.nodup_nil, Nat.zero_le _⟩
  | template name => exact ⟨.inl rfl, List.nodup_singleton name, le_rfl⟩

/-- **Every frame that is reached keeps to the limits.** -/
theorem Reaches.guarded {now : Moment} {context : Value} {q : Request} {p : Progress}
    (h : r.Reaches (r.start now context q) p) : ∀ f ∈ p.frames, r.Guarded f := by
  refine Reaches.invariant (I := fun p => ∀ f ∈ p.frames, r.Guarded f) ?_ h ?_
  · intro p hp g hg
    obtain ⟨f, hf, rfl | hfg⟩ := follows_of_step hg
    · exact hp _ hf
    · exact hfg.guarded (hp f hf)
  · intro f hf
    unfold start at hf
    split at hf
    · obtain rfl := List.mem_singleton.1 hf
      exact guarded_frame q
    · cases hf

/-! ### Failures -/

theorem read_ne_endless (source : String) (name : Option String) :
    r.read source name ≠ .error .endless := by
  intro h
  rcases error_of_read h with he | ⟨flaw, he⟩ <;> cases he

theorem enter_ne_endless (f : Frame) (role : Role) (name : String) :
    r.enter f role name ≠ .error .endless := by
  intro h
  rcases error_of_enter h with ⟨-, he⟩ | ⟨-, he⟩ | he | ⟨source, -, he⟩
  · cases he
  · cases he
  · cases he
  · exact read_ne_endless _ _ he

theorem visit_ne_endless
    (hf : ∀ name v arguments, r.filters.apply name v arguments ≠ .error .endless)
    (f : Frame) (s : Scope) (x : Node) : r.visit f s x ≠ .error .endless := by
  intro h
  cases fails_of_visit h with
  | expression h =>
    rcases error_of_renderExpression h with he | ⟨name, v, arguments, he⟩
    · cases he
    · exact hf _ _ _ he
  | test ht h => cases error_of_valueOf h
  | enter h => exact enter_ne_endless _ _ _ h

theorem step_ne_endless
    (hf : ∀ name v arguments, r.filters.apply name v arguments ≠ .error .endless)
    {p : Progress} (hp : p ≠ .ended (.error .endless)) :
    r.step p ≠ .ended (.error .endless) := by
  intro h
  match p with
  | .ended o => exact hp h
  | .going done [] => cases h
  | .going done (.items f s body [] :: rest) => cases h
  | .going done (.items f s body (v :: values) :: rest) => cases h
  | .going done (.nodes f s [] :: rest) => cases h
  | .going done (.nodes f s (x :: ns) :: rest) =>
    simp only [step] at h
    split at h
    · cases h
    · rename_i e he
      cases h
      exact visit_ne_endless hf f s x he

theorem scopeAndTree_ne_endless (now : Moment) (context : Value) (text : String)
    (name : Option String) : r.scopeAndTree now context text name ≠ .error .endless := by
  intro h
  rcases error_of_bind h with h | ⟨scope, -, h⟩
  · rcases error_of_scopeOf h with he | he <;> cases he
  · rcases error_of_bind h with h | ⟨ns, -, h⟩
    · exact read_ne_endless _ _ h
    · cases h

theorem prepare_ne_endless (now : Moment) (context : Value) (q : Request) :
    r.prepare now context q ≠ .error .endless := by
  intro h
  cases q with
  | source text => exact scopeAndTree_ne_endless now context text none h
  | template name =>
    simp only [prepare] at h
    split at h
    · cases h
    · exact scopeAndTree_ne_endless now context _ (some name) h

/-- Where no filter does, a run never ends for want of an end. -/
theorem Reaches.ne_endless
    (hf : ∀ name v arguments, r.filters.apply name v arguments ≠ .error .endless)
    {now : Moment} {context : Value} {q : Request} {p : Progress}
    (h : r.Reaches (r.start now context q) p) : p ≠ .ended (.error .endless) := by
  refine h.invariant (I := fun p => p ≠ .ended (.error .endless))
    (fun _ hp => step_ne_endless hf hp) ?_
  intro hs
  unfold start at hs
  split at hs
  · cases hs
  · rename_i e he
    cases hs
    exact prepare_ne_endless now context q he

end Renderer

end SiteTemplates
