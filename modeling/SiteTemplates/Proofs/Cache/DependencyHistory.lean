import Mathlib.Data.List.Induction
import SiteTemplates.Proofs.Cache.PlainTemplates

/-!
# The dependency graph follows the history

The edges of a name are kept in two tables with lives of their own: those that the source names are
replaced by every put, those that were added by hand stay until the name is removed.  Seen from a
run, an edge is there by a command of the run that nothing later has undone (`HasSince`), and the
two tables differ only in what undoes it: `HasSince.concat_iff` is the step, `mem_included_run` and
`mem_added_run` are the two tables after a run.

Marks and commands on other names undo nothing, and the dependents of a name are read off the same
edges (`dependencies_run`).
-/

namespace SiteTemplates

/-- There is an event of one kind in a history, and none of another kind after it. -/
def HasSince {α : Type} (occurs undoes : α → Prop) (history : List α) : Prop :=
  ∃ before event after, history = before ++ event :: after ∧ occurs event ∧
    ∀ later ∈ after, ¬ undoes later

namespace HasSince

variable {α : Type} {occurs undoes : α → Prop} {history : List α} {event : α}

theorem not_nil : ¬ HasSince occurs undoes [] := by
  rintro ⟨before, event, after, h, -⟩
  cases before <;> cases h

/-- **One event more**: it is of the one kind itself, or it is not of the other kind and there was
one before. -/
theorem concat_iff : HasSince occurs undoes (history ++ [event]) ↔
    occurs event ∨ HasSince occurs undoes history ∧ ¬ undoes event := by
  constructor
  · rintro ⟨before, e, after, h, he, hafter⟩
    rcases List.eq_nil_or_concat after with rfl | ⟨after, last, rfl⟩
    · obtain ⟨-, hlast⟩ := List.append_inj' h rfl
      obtain rfl := List.singleton_inj.1 hlast
      exact .inl he
    · rw [List.concat_eq_append] at h hafter
      rw [← List.cons_append, ← List.append_assoc] at h
      obtain ⟨rfl, hlast⟩ := List.append_inj' h rfl
      obtain rfl := List.singleton_inj.1 hlast
      refine .inr ⟨⟨before, e, after, rfl, he, fun later hl => hafter later ?_⟩, hafter event ?_⟩
      · exact List.mem_append_left _ hl
      · exact List.mem_append_right _ List.mem_cons_self
  · rintro (h | ⟨⟨before, e, after, rfl, he, hafter⟩, hu⟩)
    · exact ⟨history, event, [], rfl, h, fun _ hl => by cases hl⟩
    · refine ⟨before, e, after ++ [event], by simp, he, fun later hl => ?_⟩
      rcases List.mem_append.1 hl with hl | hl
      · exact hafter later hl
      · rw [List.mem_singleton.1 hl]
        exact hu

end HasSince

namespace TemplateCommand

/-- The command removes a name, alone or with all others. -/
inductive Forgets (name : String) : TemplateCommand → Prop
  | remove : Forgets name (.remove name)
  | clear : Forgets name .clear

/-- The command removes a name or writes it anew. -/
inductive Replaces (name : String) : TemplateCommand → Prop
  | put (t : Template) : Replaces name (.put name t)
  | forgets {command : TemplateCommand} (h : Forgets name command) : Replaces name command

/-- The command is about the edges of a name. -/
inductive Concerns (name : String) : TemplateCommand → Prop
  | addDependency (dependency : String) : Concerns name (.addDependency name dependency)
  | replaces {command : TemplateCommand} (h : Replaces name command) : Concerns name command

/-- The last put of a name since it was removed, if it was, has this template. -/
def LastPut (commands : List TemplateCommand) (name : String) (t : Template) : Prop :=
  HasSince (· = .put name t) (Replaces name) commands

/-- This edge was added to a name since the name was removed, if it was. -/
def Added (commands : List TemplateCommand) (name dependency : String) : Prop :=
  HasSince (· = .addDependency name dependency) (Forgets name) commands

end TemplateCommand

namespace TemplateState

open TemplateCommand

variable {w : TemplateState} {command : TemplateCommand} {n d : String}

theorem run_concat (w : TemplateState) (commands : List TemplateCommand)
    (command : TemplateCommand) :
    w.run (commands ++ [command]) = (w.run commands).step command := by
  rw [run, List.foldl_append]
  rfl

/-! ### The tables of edges after one command -/

theorem included_step_put (name : String) (t : Template) :
    (w.step (.put name t)).cache.included.get? n =
      if n = name then some t.dependencies else w.cache.included.get? n :=
  Table.get?_insert _ _ _ _

theorem included_step_remove (name : String) :
    (w.step (.remove name)).cache.included.get? n =
      if n = name then none else w.cache.included.get? n :=
  Table.get?_erase _ _ _

theorem added_step_remove (name : String) :
    (w.step (.remove name)).cache.added.get? n =
      if n = name then none else w.cache.added.get? n :=
  Table.get?_erase _ _ _

theorem mem_added_step_addDependency (name dependency : String) :
    d ∈ ((w.step (.addDependency name dependency)).cache.added.get? n).getD [] ↔
      n = name ∧ d = dependency ∨ d ∈ (w.cache.added.get? n).getD [] := by
  simp only [step, TemplateCache.addDependency, Table.get?_insert]
  by_cases hn : n = name
  · subst hn
    rw [if_pos rfl, Option.getD_some]
    split
    · rename_i hm
      refine ⟨.inr, ?_⟩
      rintro (⟨-, rfl⟩ | h)
      · exact hm
      · exact h
    · rw [List.mem_append, List.mem_singleton, or_comm]
      simp
  · simp [hn]

/-- A command that is not about a name leaves its edges as they are. -/
theorem edges_step (h : ¬ command.Concerns n) :
    (w.step command).cache.included.get? n = w.cache.included.get? n ∧
      (w.step command).cache.added.get? n = w.cache.added.get? n := by
  cases command with
  | put name t =>
    have hn : n ≠ name := fun hn => h (hn ▸ .replaces (.put t))
    exact ⟨by rw [included_step_put, if_neg hn], rfl⟩
  | addDependency name dependency =>
    have hn : n ≠ name := fun hn => h (hn ▸ .addDependency dependency)
    refine ⟨rfl, ?_⟩
    simp only [step, TemplateCache.addDependency, Table.get?_insert, if_neg hn]
  | invalidate name => exact ⟨rfl, rfl⟩
  | remove name =>
    have hn : n ≠ name := fun hn => h (hn ▸ .replaces (.forgets .remove))
    exact ⟨by rw [included_step_remove, if_neg hn], by rw [added_step_remove, if_neg hn]⟩
  | clear => exact absurd (.replaces (.forgets .clear)) h
  | setClock now => exact ⟨rfl, rfl⟩

/-! ### The tables of edges after a run -/

theorem mem_included_step : d ∈ ((w.step command).cache.included.get? n).getD [] ↔
    (∃ t, command = .put n t ∧ d ∈ t.dependencies) ∨
      d ∈ (w.cache.included.get? n).getD [] ∧ ¬ command.Replaces n := by
  by_cases hr : command.Replaces n
  · simp only [hr, not_true_eq_false, and_false, or_false]
    cases hr with
    | put t =>
      rw [included_step_put, if_pos rfl]
      simp
    | forgets h =>
      cases h with
      | remove =>
        rw [included_step_remove, if_pos rfl]
        simp
      | clear => simp [step, TemplateCache.empty]
  · have hput : ∀ t, command ≠ .put n t := fun t h => hr (h ▸ .put t)
    have hsame : (w.step command).cache.included.get? n = w.cache.included.get? n := by
      by_cases hc : command.Concerns n
      · cases hc with
        | addDependency dependency => rfl
        | replaces h => exact absurd h hr
      · exact (edges_step hc).1
    simp [hsame, hr, hput]

theorem mem_added_step : d ∈ ((w.step command).cache.added.get? n).getD [] ↔
    command = .addDependency n d ∨
      d ∈ (w.cache.added.get? n).getD [] ∧ ¬ command.Forgets n := by
  by_cases hc : command.Concerns n
  · cases hc with
    | addDependency dependency =>
      have hf : ¬ Forgets n (.addDependency n dependency) := by rintro ⟨⟩
      rw [mem_added_step_addDependency]
      simp [hf, eq_comm]
    | replaces h =>
      cases h with
      | put t =>
        have hf : ¬ Forgets n (.put n t) := by rintro ⟨⟩
        simp [hf, step, TemplateCache.put]
      | forgets h =>
        cases h with
        | remove =>
          rw [added_step_remove, if_pos rfl]
          simp [Forgets.remove]
        | clear => simp [Forgets.clear, step, TemplateCache.empty]
  · have hadd : command ≠ .addDependency n d := fun h => hc (h ▸ .addDependency d)
    have hf : ¬ command.Forgets n := fun h => hc (.replaces (.forgets h))
    simp [(edges_step hc).2, hadd, hf]

theorem mem_included_run (now : Moment) (commands : List TemplateCommand) :
    d ∈ (((start now).run commands).cache.included.get? n).getD [] ↔
      ∃ t, LastPut commands n t ∧ d ∈ t.dependencies := by
  induction commands using List.reverseRecOn with
  | nil =>
    constructor
    · intro h
      cases h
    · rintro ⟨t, h, -⟩
      exact absurd h HasSince.not_nil
  | append_singleton commands command ih =>
    rw [run_concat, mem_included_step, ih]
    simp only [LastPut, HasSince.concat_iff]
    constructor
    · rintro (⟨t, hc, hd⟩ | ⟨⟨t, hl, hd⟩, hr⟩)
      · exact ⟨t, .inl hc, hd⟩
      · exact ⟨t, .inr ⟨hl, hr⟩, hd⟩
    · rintro ⟨t, hc | ⟨hl, hr⟩, hd⟩
      · exact .inl ⟨t, hc, hd⟩
      · exact .inr ⟨⟨t, hl, hd⟩, hr⟩

theorem mem_added_run (now : Moment) (commands : List TemplateCommand) :
    d ∈ (((start now).run commands).cache.added.get? n).getD [] ↔ Added commands n d := by
  induction commands using List.reverseRecOn with
  | nil =>
    constructor
    · intro h
      cases h
    · intro h
      exact absurd h HasSince.not_nil
  | append_singleton commands command ih =>
    rw [run_concat, mem_added_step, ih]
    simp only [Added, HasSince.concat_iff]

theorem dependencies_step (h : ¬ command.Concerns n) :
    (w.step command).cache.dependencies n = w.cache.dependencies n := by
  obtain ⟨hincluded, hadded⟩ := edges_step (w := w) h
  rw [TemplateCache.dependencies, TemplateCache.dependencies, hincluded, hadded]

/-- **The dependency graph follows the history.**  After every run from an empty cache a name
depends on the partials that the source of its last put names and on what was added to it by hand,
both since its last removal.  Marks and commands on other names leave that as it is.  And the
dependents of a name are those that depend on it. -/
theorem dependencies_run (now : Moment) (commands : List TemplateCommand) (n : String) :
    let c := ((start now).run commands).cache
    (∀ d, d ∈ c.dependencies n ↔
      (∃ t, LastPut commands n t ∧ d ∈ partialNames t.source) ∨ Added commands n d) ∧
    (∀ command, ¬ command.Concerns n →
      ((start now).run (commands ++ [command])).cache.dependencies n = c.dependencies n) ∧
    ∀ m, m ∈ c.dependents n ↔ n ∈ c.dependencies m := by
  intro c
  refine ⟨fun d => ?_, fun command h => ?_, fun m => TemplateCache.mem_dependents_iff⟩
  · rw [TemplateCache.mem_dependencies_iff, mem_included_run, mem_added_run]
    rfl
  · rw [run_concat]
    exact dependencies_step h

/-- A name that is marked keeps what was added to it. -/
theorem dependencies_run_marked :
    let commands : List TemplateCommand :=
      [.put "page" AllowedRun.greeting, .addDependency "page" "site"]
    ¬ (TemplateCommand.invalidate "page").Concerns "page" ∧
      ((start AllowedRun.newYear).run
          (commands ++ [.invalidate "page"])).cache.dependencies "page" =
        ((start AllowedRun.newYear).run commands).cache.dependencies "page" ∧
      "site" ∈ ((start AllowedRun.newYear).run commands).cache.dependencies "page" := by
  intro commands
  have hc : ¬ (TemplateCommand.invalidate "page").Concerns "page" := by
    rintro (_ | ⟨_ | ⟨⟨⟩⟩⟩)
  obtain ⟨hdependencies, hsame, -⟩ := dependencies_run AllowedRun.newYear commands "page"
  refine ⟨hc, hsame _ hc, (hdependencies "site").2 (.inr ?_)⟩
  exact ⟨[.put "page" AllowedRun.greeting], _, [], rfl, rfl, by simp⟩

end TemplateState

end SiteTemplates
