import SiteTemplates.Proofs.Render.Steps

/-!
# The machine and the recursion agree

`Renderer.answer` is a recursion with counts, the machine of `Renderer.step` counts nothing.  Here
neither is asked to behave: whatever a request is, the machine ends with its answer, and if the
machine never ends, the answer is that blocks refer to one another without end.

* Every state has a meaning, the outcome that rendering gives for what is left in it, and a step
  leaves the meaning as it is (`meaning_step`).  So if a run ends, it ends with the meaning that it
  started with.
* If the meaning of a task is not that blocks have no end, the task comes to its end
  (`finishes_of_ne_endless`).  The induction is that of `Renderer.renderIn`: on the levels below a
  frame, on how often a level may still be left for a filling, and on the tree.
-/

namespace SiteTemplates

namespace Renderer

variable {r : Renderer} {f : Frame} {s : Scope}

/-! ### Meanings -/

def perform (r : Renderer) : Task → Outcome
  | .nodes f s ns => r.renderIn f s ns
  | .items f s body values =>
    joined (fun v => r.renderIn f (Value.loopScope s v) body) values

/-- What rendering gives for a state: the text so far and what its tasks give after that. -/
def meaning (r : Renderer) : Progress → Outcome
  | .going done tasks => (joined r.perform tasks).map (done ++ ·)
  | .ended o => o

theorem joined_singleton {α : Type} (go : α → Outcome) (a : α) : joined go [a] = go a := by
  rw [joined, joined]
  cases go a with
  | error e => rfl
  | ok t => exact congrArg Except.ok String.append_empty

theorem perform_task (task : Task) :
    (do
      let u ← joined r.perform [task]
      return "" ++ u) = r.perform task := by
  rw [joined_singleton]
  exact map_empty_append _

/-- A node gives the text of its visit and then what the tasks give that it leaves. -/
theorem renderIn_eq_visit (x : Node) :
    r.renderIn f s [x] = (do
      let (t, tasks) ← r.visit f s x
      let u ← joined r.perform tasks
      return t ++ u) := by
  cases x with
  | text t =>
    rw [renderIn_text]
    exact congrArg Except.ok String.append_empty.symm
  | «variable» e =>
    rw [renderIn_variable, visit]
    cases r.renderExpression e s with
    | error e => rfl
    | ok t => exact congrArg Except.ok String.append_empty.symm
  | conditional path negated body alternative =>
    rw [renderIn_conditional, visit]
    cases valueOf path s with
    | error e => rfl
    | ok v =>
      exact (perform_task (.nodes f s (if v.isTrue != negated then body else alternative))).symm
  | each path body =>
    rw [renderIn_each, visit]
    cases valueOf path s with
    | error e => rfl
    | ok v =>
      simp only [bind, Except.bind]
      by_cases hi : itemsOf v = []
      · rw [if_pos hi, if_pos hi]
        rfl
      · rw [if_neg hi, if_neg hi]
        cases r.descend f with
        | error e => rfl
        | ok u => exact (perform_task (.items (loopFrame f) s body (itemsOf v))).symm
  | part name =>
    rw [renderIn_part, visit]
    cases r.enter f .part name with
    | error e => rfl
    | ok ns => exact (perform_task (.nodes (templateFrame f name []) s ns)).symm
  | block name body =>
    rw [renderIn_block]
    exact (perform_task (.nodes f s ((f.overrides.lookup name).getD body))).symm
  | layout name fillings =>
    rw [renderIn_layout, visit]
    cases r.enter f .layout name with
    | error e => rfl
    | ok ns =>
      exact (perform_task
        (.nodes (templateFrame f name (f.overrides ++ fillings.reverse)) s ns)).symm

theorem meaning_cons (done : String) (task : Task) (rest : List Task) :
    r.meaning (.going done (task :: rest)) = (do
      let t ← r.perform task
      r.meaning (.going (done ++ t) rest)) :=
  map_joined_cons r.perform done task rest

theorem meaning_append (done : String) (tasks rest : List Task) :
    r.meaning (.going done (tasks ++ rest)) = (do
      let t ← joined r.perform tasks
      r.meaning (.going (done ++ t) rest)) := by
  simp only [meaning, joined_append]
  cases joined r.perform tasks with
  | error e => rfl
  | ok t =>
    cases joined r.perform rest with
    | error e => rfl
    | ok u => exact congrArg Except.ok String.append_assoc.symm

theorem meaning_nodes_cons (done : String) (x : Node) (ns : List Node) (rest : List Task) :
    r.meaning (.going done (.nodes f s (x :: ns) :: rest)) = (do
      let t ← r.renderIn f s [x]
      r.meaning (.going (done ++ t) (.nodes f s ns :: rest))) := by
  simp only [meaning_cons, perform]
  rw [renderIn_cons]
  cases r.renderIn f s [x] with
  | error e => rfl
  | ok t =>
    cases r.renderIn f s ns with
    | error e => rfl
    | ok u =>
      have hassoc : done ++ (t ++ u) = done ++ t ++ u := String.append_assoc.symm
      exact congrArg (fun d => r.meaning (.going d rest)) hassoc

/-- **A step leaves the meaning as it is.** -/
theorem meaning_step (p : Progress) : r.meaning (r.step p) = r.meaning p := by
  match p with
  | .ended o => rfl
  | .going done [] => exact congrArg Except.ok String.append_empty.symm
  | .going done (.items f s body [] :: rest) =>
    have hdone : done ++ "" = done := String.append_empty
    rw [meaning_cons]
    exact congrArg (fun d => r.meaning (.going d rest)) hdone.symm
  | .going done (.items f s body (v :: values) :: rest) =>
    have hitems : r.perform (.items f s body (v :: values)) =
        joined r.perform [.nodes f (Value.loopScope s v) body, .items f s body values] := by
      rw [joined, joined_singleton]
      rfl
    rw [meaning_cons, hitems, ← meaning_append]
    rfl
  | .going done (.nodes f s [] :: rest) =>
    have hdone : done ++ "" = done := String.append_empty
    rw [meaning_cons, perform, renderIn_nil]
    exact congrArg (fun d => r.meaning (.going d rest)) hdone.symm
  | .going done (.nodes f s (x :: ns) :: rest) =>
    rw [meaning_nodes_cons, renderIn_eq_visit, step]
    cases r.visit f s x with
    | error e => rfl
    | ok visited =>
      obtain ⟨t, tasks⟩ := visited
      simp only [meaning_append]
      simp only [bind, Except.bind, pure, Except.pure]
      cases joined r.perform tasks with
      | error e => rfl
      | ok u => exact congrArg (fun d => r.meaning (.going d _)) String.append_assoc

theorem Reaches.meaning_eq {p p' : Progress} (h : r.Reaches p p') :
    r.meaning p' = r.meaning p :=
  h.invariant (I := fun p' => r.meaning p' = r.meaning p)
    (fun p' hp' => (meaning_step p').trans hp') rfl

/-! ### Ends -/

/-- A state comes to an end. -/
def Ends (r : Renderer) (p : Progress) : Prop := ∃ o, r.Reaches p (.ended o)

theorem Ends.of_step {p : Progress} (h : r.Ends (r.step p)) : r.Ends p := by
  obtain ⟨o, h⟩ := h
  exact ⟨o, h.of_step rfl⟩

/-- A task on top comes to its end wherever what lies below it goes on to one. -/
def Finishes (r : Renderer) (task : Task) : Prop :=
  ∀ done rest, (∀ t, r.perform task = .ok t → r.Ends (.going (done ++ t) rest)) →
    r.Ends (.going done (task :: rest))

theorem ends_append {tasks : List Task} (h : ∀ task ∈ tasks, r.Finishes task) {done : String}
    {rest : List Task}
    (hrest : ∀ t, joined r.perform tasks = .ok t → r.Ends (.going (done ++ t) rest)) :
    r.Ends (.going done (tasks ++ rest)) := by
  induction tasks generalizing done with
  | nil =>
    have hnil := hrest "" rfl
    rwa [String.append_empty] at hnil
  | cons task tasks ih =>
    refine h task List.mem_cons_self done (tasks ++ rest) (fun t ht => ?_)
    refine ih (fun task' ht' => h task' (List.mem_cons_of_mem _ ht')) (fun u hu => ?_)
    rw [String.append_assoc]
    refine hrest (t ++ u) ?_
    rw [joined, ht, hu]
    rfl

theorem finishes_nil : r.Finishes (.nodes f s []) := by
  intro done rest hrest
  have hnil := hrest "" renderIn_nil
  rw [String.append_empty] at hnil
  exact .of_step hnil

/-- The nodes of a task come to their end if the tasks do that the first one leaves, and after its
text the others. -/
theorem finishes_cons {x : Node} {ns : List Node}
    (hx : ∀ t tasks, r.visit f s x = .ok (t, tasks) → ∀ task ∈ tasks, r.Finishes task)
    (hns : ∀ t, r.renderIn f s [x] = .ok t → r.Finishes (.nodes f s ns)) :
    r.Finishes (.nodes f s (x :: ns)) := by
  intro done rest hrest
  refine .of_step ?_
  rw [step]
  cases hv : r.visit f s x with
  | error e => exact ⟨_, .refl _⟩
  | ok visited =>
    obtain ⟨t, tasks⟩ := visited
    refine ends_append (hx t tasks hv) (fun u hu => ?_)
    have hfirst : r.renderIn f s [x] = .ok (t ++ u) := by
      rw [renderIn_eq_visit, hv]
      simp only [bind, Except.bind, hu]
      rfl
    refine hns _ hfirst _ rest (fun w hw => ?_)
    have hassoc : done ++ t ++ u ++ w = done ++ (t ++ u ++ w) := by
      simp only [String.append_assoc]
    rw [hassoc]
    refine hrest (t ++ u ++ w) ?_
    rw [perform, renderIn_cons, hfirst]
    simp only [bind, Except.bind, show r.renderIn f s ns = .ok w from hw]
    rfl

theorem ne_endless_of_bind {α β : Type} {x : Except Failure α} {g : α → Except Failure β}
    (h : x >>= g ≠ .error .endless) : x ≠ .error .endless := by
  rintro rfl
  exact h rfl

theorem finishes_items {body : List Node} {values : List Value}
    (hbody : ∀ s, r.renderIn f s body ≠ .error .endless → r.Finishes (.nodes f s body))
    (h : r.perform (.items f s body values) ≠ .error .endless) :
    r.Finishes (.items f s body values) := by
  induction values with
  | nil =>
    intro done rest hrest
    have hnil := hrest "" rfl
    rw [String.append_empty] at hnil
    exact .of_step hnil
  | cons v values ih =>
    intro done rest hrest
    have hcons : r.perform (.items f s body (v :: values)) = (do
        let t ← r.renderIn f (Value.loopScope s v) body
        let u ← r.perform (.items f s body values)
        return t ++ u) := rfl
    refine .of_step ?_
    refine hbody _ (ne_endless_of_bind (hcons ▸ h)) done _ (fun t ht => ?_)
    rw [show r.renderIn f (Value.loopScope s v) body = .ok t from ht] at hcons
    have hvalues : r.perform (.items f s body values) ≠ .error .endless :=
      ne_endless_of_bind (hcons ▸ h)
    refine ih hvalues (done ++ t) rest (fun u hu => ?_)
    rw [String.append_assoc]
    refine hrest (t ++ u) ?_
    rw [hcons, hu]
    rfl

/-! ### Tasks that come to their end -/

/-- One level below a frame, where there is such a level, nodes come to their end. -/
def FinishesBelow (r : Renderer) (f : Frame) : Prop :=
  (f.depth : Int) < r.maxDepth → ∀ g : Frame, g.depth = f.depth + 1 → ∀ s ns,
    r.renderIn g s ns ≠ .error .endless → r.Finishes (.nodes g s ns)

/-- The fillings of a frame come to their end, as far as they do with leaving the level so often. -/
def FinishesFillings (r : Renderer) (f : Frame) (s : Scope) (n : Nat) : Prop :=
  ∀ name filling, f.overrides.lookup name = some filling →
    r.refill f n s filling ≠ .error .endless → r.Finishes (.nodes f s filling)

/-- Leaving a level less often changes nothing but blocks without end. -/
theorem renderLevel_eq_renderIn {n : Nat} {ns : List Node}
    (h : r.renderLevel (r.deeper? f) f n s ns ≠ .error .endless) :
    r.renderLevel (r.deeper? f) f n s ns = r.renderIn f s ns := by
  have hmore : ∀ k, r.renderLevel (r.deeper? f) f n s ns =
      r.renderLevel (r.deeper? f) f (n + k) s ns := by
    intro k
    induction k with
    | zero => rfl
    | succ k ih =>
      have hne := ih ▸ h
      have hsucc := renderLevel_of_refill (r := r) (f := f) (s := s) (m := n + k)
        (fun _ filling _ => refill_succ (n + k) filling) ns
      exact ih.trans (hsucc.resolve_left hne)
  rw [hmore f.overrides.length, renderLevel_of_length_le (Nat.le_add_left _ _)]

theorem renderNode_eq_renderIn {n : Nat} {x : Node}
    (h : r.renderNode ⟨r.refill f n, r.deeper? f⟩ f s x ≠ .error .endless) :
    r.renderNode ⟨r.refill f n, r.deeper? f⟩ f s x = r.renderIn f s [x] := by
  have hlevel : r.renderLevel (r.deeper? f) f n s [x] =
      r.renderNode ⟨r.refill f n, r.deeper? f⟩ f s x := by
    rw [renderLevel_eq, renderNodes_eq, map_empty_append, joined_singleton]
  rw [← hlevel] at h ⊢
  exact renderLevel_eq_renderIn h

theorem Follows.depth_eq {g : Frame} (h : r.Follows f g) :
    (f.depth : Int) < r.maxDepth ∧ g.depth = f.depth + 1 := by
  cases h with
  | loop h => exact ⟨h, rfl⟩
  | template h => exact ⟨h, rfl⟩

theorem finishes_of_follows {task : Task} (hbelow : r.FinishesBelow f)
    (hf : r.Follows f task.frame) (h : r.perform task ≠ .error .endless) : r.Finishes task := by
  obtain ⟨hlt, hdepth⟩ := hf.depth_eq
  cases task with
  | nodes g s ns => exact hbelow hlt g hdepth s ns h
  | items g s body values => exact finishes_items (fun s => hbelow hlt g hdepth s body) h

theorem finishes_of_visit_follows {n : Nat} {x : Node} {t : String} {task : Task}
    (hbelow : r.FinishesBelow f)
    (h : r.renderNode ⟨r.refill f n, r.deeper? f⟩ f s x ≠ .error .endless)
    (hv : r.visit f s x = .ok (t, [task])) (hf : r.Follows f task.frame) : r.Finishes task := by
  rw [renderNode_eq_renderIn h, renderIn_eq_visit, hv] at h
  have htask : joined r.perform [task] ≠ .error .endless := ne_endless_of_bind h
  rw [joined_singleton] at htask
  exact finishes_of_follows hbelow hf htask

theorem finishes_of_enter {n : Nat} {x : Node} {role : Role} {name t : String}
    {overrides : List (String × List Node)} {tasks : List Task} (hbelow : r.FinishesBelow f)
    (h : r.renderNode ⟨r.refill f n, r.deeper? f⟩ f s x ≠ .error .endless)
    (hx : r.visit f s x = (do
      let ns ← r.enter f role name
      return ("", [.nodes (templateFrame f name overrides) s ns])))
    (hv : r.visit f s x = .ok (t, tasks)) : ∀ task ∈ tasks, r.Finishes task := by
  intro task ht
  obtain ⟨ns, he, htasks⟩ := ok_of_bind (hx ▸ hv)
  cases htasks
  obtain rfl := List.mem_singleton.1 ht
  obtain ⟨hs, hd, -⟩ := enter_eq_ok_iff.1 he
  exact finishes_of_visit_follows hbelow h hv (.template hd hs overrides)

-- Down the tree.  Only conditionals and blocks stay in the frame at hand; all else that a node
-- leaves lies one level deeper.
mutual

/-- Whatever a node leaves comes to its end where the fillings of the frame do. -/
theorem finishes_of_visit {n : Nat} (hbelow : r.FinishesBelow f) (hfill : r.FinishesFillings f s n)
    (x : Node) (h : r.renderNode ⟨r.refill f n, r.deeper? f⟩ f s x ≠ .error .endless) {t : String}
    {tasks : List Task} (hv : r.visit f s x = .ok (t, tasks)) :
    ∀ task ∈ tasks, r.Finishes task := by
  intro task ht
  cases x with
  | text u =>
    cases hv
    cases ht
  | «variable» e =>
    obtain ⟨u, -, hv⟩ := ok_of_bind hv
    cases hv
    cases ht
  | conditional path negated body alternative =>
    have hbody := finishes_nodes hbelow hfill body
    have halternative := finishes_nodes hbelow hfill alternative
    obtain ⟨v, hvalue, hv⟩ := ok_of_bind hv
    cases hv
    obtain rfl := List.mem_singleton.1 ht
    rw [renderNode_conditional, hvalue] at h
    simp only [bind, Except.bind, renderNodes_eq, map_empty_append] at h
    cases hb : v.isTrue != negated with
    | true => exact hbody (by rwa [hb] at h)
    | false => exact halternative (by rwa [hb] at h)
  | each path body =>
    obtain ⟨v, -, htasks⟩ := ok_of_bind hv
    split at htasks
    · cases htasks
      cases ht
    · obtain ⟨_, hd, htasks⟩ := ok_of_bind htasks
      cases htasks
      obtain rfl := List.mem_singleton.1 ht
      exact finishes_of_visit_follows hbelow h hv (.loop (descend_eq_ok_iff.1 hd))
  | part name => exact finishes_of_enter hbelow h rfl hv task ht
  | block name body =>
    have hbody := finishes_nodes hbelow hfill body
    cases hv
    obtain rfl := List.mem_singleton.1 ht
    rw [renderNode_block] at h
    cases hl : f.overrides.lookup name with
    | some filling =>
      rw [hl] at h
      exact hfill name filling hl h
    | none =>
      simp only [hl, renderNodes_eq, map_empty_append] at h
      exact hbody h
  | layout name fillings => exact finishes_of_enter hbelow h rfl hv task ht

theorem finishes_nodes {n : Nat} (hbelow : r.FinishesBelow f) (hfill : r.FinishesFillings f s n)
    (ns : List Node)
    (h : joined (r.renderNode ⟨r.refill f n, r.deeper? f⟩ f s) ns ≠ .error .endless) :
    r.Finishes (.nodes f s ns) := by
  cases ns with
  | nil => exact finishes_nil
  | cons x rest =>
    rw [joined] at h
    have hx := ne_endless_of_bind h
    refine finishes_cons (fun t tasks hv => finishes_of_visit hbelow hfill x hx hv) (fun t ht => ?_)
    rw [renderNode_eq_renderIn hx, ht] at h
    exact finishes_nodes hbelow hfill rest (ne_endless_of_bind h)

end

/-- On the number of times that the level may be left for a filling. -/
theorem finishes_of_level (hbelow : r.FinishesBelow f) (n : Nat) (ns : List Node)
    (h : r.renderLevel (r.deeper? f) f n s ns ≠ .error .endless) :
    r.Finishes (.nodes f s ns) := by
  induction n generalizing ns with
  | zero =>
    have hfill : r.FinishesFillings f s 0 := fun _ _ _ hne => absurd rfl hne
    rw [renderLevel_eq, renderNodes_eq, map_empty_append] at h
    exact finishes_nodes hbelow hfill ns h
  | succ n ih =>
    have hfill : r.FinishesFillings f s (n + 1) := fun _ filling _ hne => ih filling hne
    rw [renderLevel_eq, renderNodes_eq, map_empty_append] at h
    exact finishes_nodes hbelow hfill ns h

/-- **Nodes come to their end** unless what they give is that blocks have no end. -/
theorem finishes_of_ne_endless (f : Frame) (s : Scope) (ns : List Node)
    (h : r.renderIn f s ns ≠ .error .endless) : r.Finishes (.nodes f s ns) := by
  -- on the number of levels below the frame
  induction hn : (r.maxDepth - f.depth).toNat using Nat.strongRecOn generalizing f s ns with
  | ind n ih =>
    have hbelow : r.FinishesBelow f := by
      intro hlt g hg s ns hne
      exact ih _ (by omega) g s ns hne rfl
    rw [renderIn_eq] at h
    exact finishes_of_level hbelow f.overrides.length ns h

/-! ### Answers -/

variable {now : Moment} {context : Value} {q : Request}

theorem meaning_start : r.meaning (r.start now context q) = r.answer now context q := by
  rw [answer_eq, start]
  cases r.prepare now context q with
  | error e => rfl
  | ok prepared =>
    obtain ⟨scope, ns⟩ := prepared
    rw [meaning, joined_singleton, map_empty_append]
    rfl

/-- A run that ends ends with the answer. -/
theorem Reaches.eq_answer {o : Outcome} (h : r.Reaches (r.start now context q) (.ended o)) :
    o = r.answer now context q :=
  h.meaning_eq.trans meaning_start

/-- An answer other than that blocks have no end is where the run ends. -/
theorem reaches_answer_of_ne_endless (h : r.answer now context q ≠ .error .endless) :
    r.Reaches (r.start now context q) (.ended (r.answer now context q)) := by
  have hends : r.Ends (r.start now context q) := by
    rw [answer_eq] at h
    rw [start]
    cases hp : r.prepare now context q with
    | error e => exact ⟨_, .refl _⟩
    | ok prepared =>
      obtain ⟨scope, ns⟩ := prepared
      rw [hp] at h
      have hfinishes := finishes_of_ne_endless q.frame scope ns h
      exact hfinishes "" [] (fun t _ => ⟨.ok ("" ++ t), .of_step rfl (.refl _)⟩)
  obtain ⟨o, ho⟩ := hends
  rwa [ho.eq_answer] at ho

/-- **A run has no end exactly if the answer is that blocks have none**, unless a filter says so. -/
theorem answer_eq_endless_iff
    (hf : ∀ name v arguments, r.filters.apply name v arguments ≠ .error .endless) :
    r.answer now context q = .error .endless ↔ ¬ r.Ends (r.start now context q) := by
  constructor
  · rintro h ⟨o, ho⟩
    refine ho.ne_endless hf ?_
    rw [ho.eq_answer, h]
  · intro hends
    by_contra hne
    exact hends ⟨_, reaches_answer_of_ne_endless hne⟩

/-! ### Where a run fails -/

/-- A run comes to a node in a frame and a scope. -/
def Visits (r : Renderer) (p : Progress) (f : Frame) (s : Scope) (x : Node) : Prop :=
  ∃ done ns rest, r.Reaches p (.going done (.nodes f s (x :: ns) :: rest))

theorem step_eq_error {p : Progress} {e : Failure} (h : r.step p = .ended (.error e)) :
    p = .ended (.error e) ∨ ∃ f s x, r.Visits p f s x ∧ r.visit f s x = .error e := by
  match p with
  | .ended o => exact .inl h
  | .going done [] => cases h
  | .going done (.items f s body [] :: rest) => cases h
  | .going done (.items f s body (v :: values) :: rest) => cases h
  | .going done (.nodes f s [] :: rest) => cases h
  | .going done (.nodes f s (x :: ns) :: rest) =>
    simp only [step] at h
    split at h
    · cases h
    · rename_i e' he
      cases h
      exact .inr ⟨f, s, x, ⟨done, ns, rest, .refl _⟩, he⟩

/-- A run that fails has failed before its first step or at a node that it came to. -/
theorem Reaches.eq_or_exists_visits {p : Progress} {e : Failure}
    (h : r.Reaches p (.ended (.error e))) :
    p = .ended (.error e) ∨ ∃ f s x, r.Visits p f s x ∧ r.visit f s x = .error e := by
  obtain ⟨n, hn⟩ := h
  induction n generalizing p with
  | zero => exact .inl hn
  | succ n ih =>
    rw [Function.iterate_succ_apply] at hn
    rcases ih hn with hp | ⟨f, s, x, ⟨done, ns, rest, hreach⟩, hx⟩
    · exact step_eq_error hp
    · exact .inr ⟨f, s, x, ⟨done, ns, rest, hreach.of_step rfl⟩, hx⟩

theorem Visits.reaches_error {p : Progress} {x : Node} {e : Failure} (h : r.Visits p f s x)
    (hx : r.visit f s x = .error e) : r.Reaches p (.ended (.error e)) := by
  obtain ⟨done, ns, rest, hreach⟩ := h
  refine hreach.trans (.of_step (q := .ended (.error e)) ?_ (.refl _))
  simp only [step, hx]

/-- **The first failure is the answer**: of what is needed before the first step, or of a node that
the run comes to. -/
theorem answer_eq_error_iff {e : Failure} (he : e ≠ .endless) :
    r.answer now context q = .error e ↔
      r.prepare now context q = .error e ∨
        ∃ f s x, r.Visits (r.start now context q) f s x ∧ r.visit f s x = .error e := by
  constructor
  · intro h
    have hreach := reaches_answer_of_ne_endless (h ▸ fun hne => he (Except.error.inj hne))
    rw [h] at hreach
    refine hreach.eq_or_exists_visits.imp_left (fun hstart => ?_)
    unfold start at hstart
    split at hstart
    · cases hstart
    · rename_i e' hp
      cases hstart
      exact hp
  · rintro (h | ⟨f, s, x, hvisits, hx⟩)
    · rw [answer_eq, h]
      rfl
    · exact (hvisits.reaches_error hx).eq_answer.symm

end Renderer

end SiteTemplates
