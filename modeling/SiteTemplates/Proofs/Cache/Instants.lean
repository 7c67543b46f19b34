import Mathlib.Data.List.Forall2
import SiteTemplates.Cache.Content
import SiteTemplates.Proofs.Calendar.Reading
import SiteTemplates.Proofs.Cache.RenderRun
import SiteTemplates.Proofs.Cache.TemplateRun

/-!
# The caches go by instants

One instant can be written in many ways, on the local clock or on any other.  What a cache keeps of
a time is its instant, and a time is refused or not by its instant alone (`stampOf_congr`).  So two
runs of a cache whose times agree as instants, command by command, go through the same states
(`RenderCache.run_congr` and its like), and give the same answers.

The order of instants is the order of what the local clock shows, year by year down to the
microsecond (`Moment.reading_le_iff`).
-/

namespace SiteTemplates

/-! ### Stamps -/

section Stamps

variable {a b a' b' now now' : Moment} {time time' : Option Moment}

theorem stampOf_congr (h : a.instant = b.instant) : stampOf a = stampOf b := by
  have hsome : a.toLocal?.isSome = b.toLocal?.isSome := by
    rw [Bool.eq_iff_iff, Moment.isSome_toLocal?_iff, Moment.isSome_toLocal?_iff, h]
  rw [stampOf_utc, stampOf_utc, hsome, h]

theorem stampOf_of_toLocal? (h : a.toLocal? = some a') : stampOf a = .ok a.instant := by
  rw [stampOf_utc, h]
  rfl

theorem stampOr_eq (h : now.offset = none) : stampOr now time = stampOf (time.getD now) := by
  cases time with
  | some t => rfl
  | none =>
    exact (stampOf_of_toLocal? (Moment.toLocal?_of_local h .utc)).symm

theorem Moment.reading_le_iff_instant (ha : a.toLocal? = some a') (hb : b.toLocal? = some b') :
    a'.reading ≤ b'.reading ↔ a.instant ≤ b.instant := by
  obtain ⟨haoffset, hainstant⟩ := Moment.instant_of_toLocal? ha
  obtain ⟨hboffset, hbinstant⟩ := Moment.instant_of_toLocal? hb
  rw [Moment.shownIn_utc] at hainstant hbinstant
  have haclock : a'.instant = a'.clock := by rw [Moment.instant, haoffset]
  have hbclock : b'.instant = b'.clock := by rw [Moment.instant, hboffset]
  rw [Moment.reading_le_iff, ← hainstant, ← hbinstant, haclock, hbclock, Int.ofNat_le]

end Stamps

namespace Stamped

variable {α : Type} {t t' : Moment} {threshold threshold' : Option Moment}

theorem current_congr (e? : Option (Stamped α))
    (h : threshold.map Moment.instant = threshold'.map Moment.instant) :
    current e? threshold = current e? threshold' := by
  cases e? with
  | none => rw [current_none, current_none]
  | some e =>
    cases threshold with
    | none =>
      cases threshold' with
      | none => rfl
      | some t' => cases h
    | some t =>
      cases threshold' with
      | none => cases h
      | some t' =>
        rw [current_since, current_since, stampOf_congr (Option.some.inj h)]

theorem isCurrent_congr (e? : Option (Stamped α)) (h : t.instant = t'.instant) :
    isCurrent e? t = isCurrent e? t' := by
  have hmap : (some t).map Moment.instant = (some t').map Moment.instant := congrArg some h
  rw [isCurrent, isCurrent, current_congr e? hmap]

end Stamped

/-! ### Content -/

/-- What is done with the content cache. -/
inductive ContentCommand where
  | put (key : String) (r : Record) (time : Option Moment)
  | remove (key : String)
  | clear

/-- The commands are the same but for how the instants in them are written. -/
inductive ContentCommand.SameInstants : ContentCommand → ContentCommand → Prop
  | put (key : String) (r : Record) {time time' : Option Moment}
      (h : (time.getD r.header.lastModified).instant = (time'.getD r.header.lastModified).instant) :
      SameInstants (.put key r time) (.put key r time')
  | refl (command : ContentCommand) : SameInstants command command

namespace ContentCache

/-- What a command makes of the cache.  A command that fails leaves it as it was. -/
def step (c : ContentCache) : ContentCommand → ContentCache
  | .put key r time =>
    match c.put key r time with
    | .ok c' => c'
    | .error _ => c
  | .remove key => c.remove key
  | .clear => .empty

/-- What commands make of the cache, one after the other. -/
def run (c : ContentCache) (commands : List ContentCommand) : ContentCache := commands.foldl step c

theorem step_congr (c : ContentCache) {command command' : ContentCommand}
    (h : command.SameInstants command') : c.step command = c.step command' := by
  cases h with
  | put key r h => rw [step, step, put, put, stampOf_congr h]
  | refl => rfl

theorem run_congr (c : ContentCache) {commands commands' : List ContentCommand}
    (h : List.Forall₂ ContentCommand.SameInstants commands commands') :
    c.run commands = c.run commands' := by
  refine List.rel_foldl ?_ (Eq.refl c) h
  rintro c _ rfl command command' hcommand
  exact step_congr c hcommand

end ContentCache

/-! ### Rendered text -/

/-- The commands are the same but for how the instants in them are written.  The present is read
from the local clock. -/
inductive RenderCommand.SameInstants : RenderCommand → RenderCommand → Prop
  | put (key value : String) {time time' : Option Moment} {now now' : Moment}
      (hnow : now.offset = none) (hnow' : now'.offset = none)
      (h : (time.getD now).instant = (time'.getD now').instant) :
      SameInstants (.put ⟨key, value, time, now⟩) (.put ⟨key, value, time', now'⟩)
  | get (key : String) {threshold threshold' : Option Moment}
      (h : threshold.map Moment.instant = threshold'.map Moment.instant) :
      SameInstants (.get key threshold) (.get key threshold')
  | isValid (key : String) {threshold threshold' : Moment}
      (h : threshold.instant = threshold'.instant) :
      SameInstants (.isValid key threshold) (.isValid key threshold')
  | refl (command : RenderCommand) : SameInstants command command

namespace RenderCache

theorem get_congr (c : RenderCache) (key : String) {threshold threshold' : Option Moment}
    (h : threshold.map Moment.instant = threshold'.map Moment.instant) :
    c.get key threshold = c.get key threshold' := by
  rw [get, get, peek, peek, Stamped.current_congr _ h]

theorem written?_congr {command command' : RenderCommand} (h : command.SameInstants command') :
    command.written? = command'.written? := by
  cases h with
  | put key value hnow hnow' h =>
    show Put.written? _ = Put.written? _
    unfold Put.written?
    rw [stampOr_eq hnow, stampOr_eq hnow', stampOf_congr h]
  | get key h => rfl
  | isValid key h => rfl
  | refl => rfl

theorem step_congr (c : RenderCache) {command command' : RenderCommand}
    (h : command.SameInstants command') : c.step command = c.step command' := by
  have hwritten := written?_congr h
  cases h with
  | put key value hnow hnow' h =>
    have hput : Put.written? _ = Put.written? _ := hwritten
    rw [step_put, step_put, hput]
  | get key h => rw [step, step, get_congr c key h]
  | isValid key h => rfl
  | refl => rfl

theorem run_congr (c : RenderCache) {commands commands' : List RenderCommand}
    (h : List.Forall₂ RenderCommand.SameInstants commands commands') :
    c.run commands = c.run commands' := by
  refine List.rel_foldl ?_ (Eq.refl c) h
  rintro c _ rfl command command' hcommand
  exact step_congr c hcommand

theorem evicts_congr (c : RenderCache) {command command' : RenderCommand}
    (h : command.SameInstants command') (key : String) :
    c.Evicts command key ↔ c.Evicts command' key := by
  unfold Evicts
  rw [written?_congr h, step_congr c h]

end RenderCache

/-! ### Templates -/

/-- The commands are the same but for how the instants in them are written. -/
inductive TemplateCommand.SameInstants : TemplateCommand → TemplateCommand → Prop
  | setClock {now now' : Moment} (h : now.instant = now'.instant) :
      SameInstants (.setClock now) (.setClock now')
  | refl (command : TemplateCommand) : SameInstants command command

namespace TemplateState

def Alike (w w' : TemplateState) : Prop := w.cache = w'.cache ∧ w.now.instant = w'.now.instant

theorem Alike.step {w w' : TemplateState} (h : w.Alike w') {command command' : TemplateCommand}
    (hc : command.SameInstants command') : (w.step command).Alike (w'.step command') := by
  obtain ⟨hcache, hnow⟩ := h
  cases hc with
  | setClock h => exact ⟨hcache, h⟩
  | refl =>
    cases command with
    | put name t =>
      refine ⟨?_, hnow⟩
      show w.cache.put w.now name t = w'.cache.put w'.now name t
      unfold TemplateCache.put
      rw [hcache, hnow]
    | addDependency name dependency =>
      exact ⟨congrArg (fun c => TemplateCache.addDependency c name dependency) hcache, hnow⟩
    | invalidate name => exact ⟨congrArg (fun c => TemplateCache.invalidate c name) hcache, hnow⟩
    | remove name => exact ⟨congrArg (fun c => TemplateCache.remove c name) hcache, hnow⟩
    | clear => exact ⟨rfl, hnow⟩
    | setClock now => exact ⟨hcache, rfl⟩

theorem Alike.run {w w' : TemplateState} (h : w.Alike w')
    {commands commands' : List TemplateCommand}
    (hc : List.Forall₂ TemplateCommand.SameInstants commands commands') :
    (w.run commands).Alike (w'.run commands') := by
  refine List.rel_foldl ?_ h hc
  intro w w' hw command command' hcommand
  exact hw.step hcommand

end TemplateState

/-- **Validity does not hang on how an instant is written.**  What the local clock shows at two
moments is in the order of their instants, and that order decides whether an entry is valid.  Two
runs of a cache whose times are the same instants find the same values, answer every question about
validity alike, drive out the same entries and count the same hits and misses. -/
theorem validity_goes_by_instants :
    (∀ a a' : Moment, a.toLocal? = some a' →
      a'.offset = none ∧ stampOf a = .ok a'.instant ∧
      ∀ b b' : Moment, b.toLocal? = some b' →
        (a'.reading ≤ b'.reading ↔ a.instant ≤ b.instant) ∧
        ∀ value : String, Stamped.isCurrent (some ⟨value, a'.instant⟩) b =
          .ok (decide (b'.reading ≤ a'.reading))) ∧
    (∀ (c : ContentCache) (commands commands' : List ContentCommand),
      List.Forall₂ ContentCommand.SameInstants commands commands' →
      let d := c.run commands
      let d' := c.run commands'
      ∀ key, d.get? key = d'.get? key ∧
        ∀ t t' : Moment, t.instant = t'.instant → d.isValid key t = d'.isValid key t') ∧
    (∀ (w : TemplateState) (commands commands' : List TemplateCommand),
      List.Forall₂ TemplateCommand.SameInstants commands commands' →
      let d := (w.run commands).cache
      let d' := (w.run commands').cache
      ∀ name, d.get? name = d'.get? name ∧
        ∀ t t' : Moment, t.instant = t'.instant → d.isValid name t = d'.isValid name t') ∧
    ∀ (c : RenderCache) (commands commands' : List RenderCommand),
      List.Forall₂ RenderCommand.SameInstants commands commands' →
      let d := c.run commands
      let d' := c.run commands'
      d = d' ∧
      (∀ key, ∀ t t' : Option Moment, t.map Moment.instant = t'.map Moment.instant →
        d.get key t = d'.get key t') ∧
      (∀ key, ∀ t t' : Moment, t.instant = t'.instant → d.isValid key t = d'.isValid key t') ∧
      ∀ command command' : RenderCommand, command.SameInstants command' →
        d.step command = d'.step command' ∧
          ∀ key, d.Evicts command key ↔ d'.Evicts command' key := by
  refine ⟨?_, ?_, ?_, ?_⟩
  · intro a a' ha
    obtain ⟨hoffset, hinstant⟩ := Moment.instant_of_toLocal? ha
    rw [Moment.shownIn_utc] at hinstant
    refine ⟨hoffset, by rw [stampOf_of_toLocal? ha, hinstant], ?_⟩
    intro b b' hb
    refine ⟨Moment.reading_le_iff_instant ha hb, ?_⟩
    intro value
    have horder := Moment.reading_le_iff_instant hb ha
    rw [Stamped.isCurrent, Stamped.current_since, stampOf_of_toLocal? hb, hinstant]
    show Except.ok (Option.isSome (if decide (b.instant ≤ a.instant) = true then _ else _)) = _
    by_cases h : b.instant ≤ a.instant <;> simp [h, horder]
  · intro c commands commands' h d d' key
    have hsame : d = d' := c.run_congr h
    rw [hsame]
    exact ⟨rfl, fun t t' ht => Stamped.isCurrent_congr _ ht⟩
  · intro w commands commands' h d d' name
    have hsame : d = d' := (TemplateState.Alike.run ⟨rfl, rfl⟩ h).1
    rw [hsame]
    exact ⟨rfl, fun t t' ht => Stamped.isCurrent_congr _ ht⟩
  · intro c commands commands' h d d'
    have hsame : d = d' := c.run_congr h
    rw [hsame]
    refine ⟨rfl, fun key t t' ht => d'.get_congr key ht, fun key t t' ht => ?_, ?_⟩
    · exact Stamped.isCurrent_congr _ ht
    · intro command command' hc
      exact ⟨d'.step_congr hc, d'.evicts_congr hc⟩

def newYearsEve : Moment := ⟨⟨1999, 12, 31, by decide⟩, ⟨19, 0, 0, 0, by decide⟩, none⟩

/-- The same instant as `newYearsEve`, on a clock that is five and a half hours ahead, where the
year has begun. -/
def newYearAhead : Moment :=
  ⟨⟨2000, 1, 1, by decide⟩, ⟨0, 30, 0, 0, by decide⟩, some ⟨19800000000, by decide, none⟩⟩

/-- Caches that are told of one evening on either clock go on alike: the next text drives the first
one out, and a template is as old as it would be. -/
theorem validity_goes_by_instants_newYearAhead :
    let put (eve : Moment) : RenderCommand := .put ⟨"k", "hi", some eve, newYearsEve⟩
    let next : RenderCommand := .put ⟨"l", "ho", none, newYearsEve⟩
    let c : RenderCache := ⟨1, Table.empty, 0, 0, Nat.one_pos⟩
    let edit (eve : Moment) : List TemplateCommand :=
      [.setClock eve, .put "t" ⟨"t", "hi", by decide⟩]
    let w : TemplateState := ⟨.empty, newYearsEve⟩
    newYearAhead.instant = newYearsEve.instant ∧
      newYearAhead.toLocal? = some newYearsEve ∧
      stampOf newYearAhead = .ok newYearsEve.instant ∧
      (put newYearAhead).SameInstants (put newYearsEve) ∧
      c.run [put newYearAhead] = c.run [put newYearsEve] ∧
      ((c.run [put newYearAhead]).Evicts next "k" ↔ (c.run [put newYearsEve]).Evicts next "k") ∧
      (w.run (edit newYearAhead)).cache.isValid "t" newYearsEve =
        (w.run (edit newYearsEve)).cache.isValid "t" newYearAhead := by
  intro put next c edit w
  have hinstant : newYearAhead.instant = newYearsEve.instant := by decide
  have hlocal : newYearAhead.toLocal? = some newYearsEve := by rfl
  have hput : (put newYearAhead).SameInstants (put newYearsEve) := .put "k" "hi" rfl rfl hinstant
  obtain ⟨hclock, -, htemplates, hrenders⟩ := validity_goes_by_instants
  obtain ⟨-, hstamp, -⟩ := hclock newYearAhead newYearsEve hlocal
  obtain ⟨hrun, -, -, hnext⟩ := hrenders c _ _ (.cons hput .nil)
  have hedits : List.Forall₂ TemplateCommand.SameInstants (edit newYearAhead) (edit newYearsEve) :=
    .cons (.setClock hinstant) (.cons (.refl _) .nil)
  have hedit := htemplates w _ _ hedits "t"
  exact ⟨hinstant, hlocal, hstamp, hput, hrun, (hnext next next (.refl next)).2 "k",
    hedit.2 newYearsEve newYearAhead hinstant.symm⟩

end SiteTemplates
