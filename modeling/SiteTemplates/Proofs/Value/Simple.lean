import SiteTemplates.Filter
import SiteTemplates.Proofs.Value.Closing
import SiteTemplates.Render.Renderer

/-!
# Simple values

What is made of nothing, truth values, integers that have a text, texts, dates, moments, lists and
maps alone.  Such a value has a text (`exists_shown?`), its closed form is there and simple again
(`exists_close?`), and so is whatever a path or a loop takes out of it.
-/

namespace SiteTemplates

open Text

namespace Value

variable {v w : Value} {vs : List Value} {es : List (Value × Value)}

mutual

/-- Whether a value is simple. -/
def simple : Value → Bool
  | null => true
  | bool _ => true
  | int n => n.natAbs < tenTo maxDigits
  | text _ => true
  | date _ => true
  | moment _ => true
  | list items => simpleAll items
  | map entries => simpleEntries entries
  | _ => false

def simpleAll : List Value → Bool
  | [] => true
  | v :: rest => simple v && simpleAll rest

def simpleEntries : List (Value × Value) → Bool
  | [] => true
  | (k, v) :: rest => simple k && simple v && simpleEntries rest

end

theorem simpleAll_iff : simpleAll vs = true ↔ ∀ v ∈ vs, v.simple = true := by
  induction vs with
  | nil => simp [simpleAll]
  | cons v rest ih => simp [simpleAll, ih]

theorem simpleEntries_cons {e : Value × Value} : simpleEntries (e :: es) = true ↔
    e.1.simple = true ∧ e.2.simple = true ∧ simpleEntries es = true := by
  rw [simpleEntries, Bool.and_eq_true, Bool.and_eq_true, and_assoc]

theorem simpleEntries_iff : simpleEntries es = true ↔
    ∀ e ∈ es, e.1.simple = true ∧ e.2.simple = true := by
  induction es with
  | nil => simp [simpleEntries]
  | cons e rest ih => simp [simpleEntries_cons, ih, and_assoc]

/-! ### The text of a simple value -/

theorem shortIntegers_of_simple (h : v.simple = true) : v.shortIntegers = true := by
  induction v using induction_on_parts with
  | _ v ih =>
  cases v with
  | int n => exact h
  | list items =>
    exact shortIntegersAll_iff.2 (fun u hu => ih u hu (simpleAll_iff.1 h u hu))
  | map entries =>
    refine shortIntegersEntries_iff.2 (fun e he => ?_)
    obtain ⟨hk, hv⟩ := simpleEntries_iff.1 h e he
    exact ⟨ih e.1 (key_mem_parts he) hk, ih e.2 (value_mem_parts he) hv⟩
  | null => rfl
  | bool b => rfl
  | text s => rfl
  | date d => rfl
  | moment m => rfl
  | _ => cases h

theorem exists_plain? (h : v.simple = true) : ∃ s, v.plain? = some s :=
  exists_plain?_of_short (shortIntegers_of_simple h)

theorem exists_shown? (h : v.simple = true) : ∃ s, v.shown? = some s := by
  have hplain := exists_plain? h
  cases v with
  | null => exact ⟨_, rfl⟩
  | bool b => exact ⟨_, rfl⟩
  | moment m => exact ⟨_, rfl⟩
  | _ => exact hplain

/-! ### Entries -/

theorem simpleEntries_put {key value : Value} (hk : key.simple = true) (hv : value.simple = true)
    (h : simpleEntries es = true) : simpleEntries (put key value es) = true := by
  induction es with
  | nil => exact simpleEntries_cons.2 ⟨hk, hv, rfl⟩
  | cons e rest ih =>
    obtain ⟨k, v⟩ := e
    obtain ⟨hk', hv', hrest⟩ := simpleEntries_cons.1 h
    rw [put]
    split
    · exact simpleEntries_cons.2 ⟨hk', hv, hrest⟩
    · exact simpleEntries_cons.2 ⟨hk', hv', ih hrest⟩

theorem simpleEntries_overlay {new : List (Value × Value)} (h : simpleEntries es = true)
    (hnew : simpleEntries new = true) : simpleEntries (overlay es new) = true := by
  induction new generalizing es with
  | nil => exact h
  | cons e rest ih =>
    obtain ⟨hk, hv, hrest⟩ := simpleEntries_cons.1 hnew
    exact ih (simpleEntries_put hk hv h) hrest

theorem simpleEntries_loopScope {item : Value} (h : simpleEntries es = true)
    (hi : item.simple = true) : simpleEntries (loopScope es item) = true := by
  unfold loopScope
  refine simpleEntries_put rfl hi ?_
  cases item with
  | map entries => exact simpleEntries_overlay h hi
  | _ => exact h

theorem simple_of_lookup? {name : String} (h : simpleEntries es = true)
    (hl : lookup? name es = some v) : v.simple = true := by
  induction es with
  | nil => cases hl
  | cons e rest ih =>
    obtain ⟨hk, hv, hrest⟩ := simpleEntries_cons.1 h
    rw [lookup?, List.find?_cons] at hl
    split at hl
    · cases hl
      exact hv
    · exact ih hrest hl

/-! ### Paths -/

theorem simple_of_step? {name : List Char} (h : v.simple = true) (hs : step? name v = some w) :
    w.simple = true := by
  cases v with
  | map entries =>
    cases hs
    cases hl : lookup? (String.ofList name) entries with
    | none => rfl
    | some u => exact simple_of_lookup? h hl
  | list items =>
    rw [step?] at hs
    split at hs
    · obtain ⟨n, -, rfl⟩ := Option.map_eq_some_iff.1 hs
      rw [List.getD_eq_getElem?_getD]
      cases hi : items[n.toNat]? with
      | none => rfl
      | some u => exact simpleAll_iff.1 h u (List.mem_of_getElem? hi)
    · cases hs
      rfl
  | _ =>
    cases hs
    rfl

theorem simple_of_walk? {names : List (List Char)} (h : v.simple = true)
    (hw : walk? v names = some w) : w.simple = true := by
  induction names generalizing v with
  | nil =>
    cases hw
    exact h
  | cons name rest ih =>
    rw [walk?] at hw
    obtain ⟨u, hu, hw⟩ := Option.bind_eq_some_iff.1 hw
    exact ih (simple_of_step? h hu) hw

theorem simple_of_resolve? {path : String} (h : simpleEntries es = true)
    (hr : resolve? path es = some v) : v.simple = true :=
  simple_of_walk? (v := map es) h hr

/-! ### The closed form of a simple value -/

theorem simple_of_close? {now : Moment} (h : v.simple = true) (hw : close? now v = some w) :
    w.simple = true := by
  induction v using induction_on_parts generalizing w with
  | _ v ih =>
  cases v with
  | list items =>
    rw [close?] at hw
    obtain ⟨ws, hws, rfl⟩ := Option.map_eq_some_iff.1 hw
    refine simpleAll_iff.2 (fun u hu => ?_)
    obtain ⟨t, ht, htu⟩ := exists_of_forall₂ (closeAll?_eq_some_iff.1 hws).flip hu
    exact ih t ht (simpleAll_iff.1 h t ht) htu
  | map entries =>
    rw [close?] at hw
    obtain ⟨es, hes, hw⟩ := Option.bind_eq_some_iff.1 hw
    obtain ⟨es', hes', rfl⟩ := Option.map_eq_some_iff.1 hw
    have hvalues : ∀ e ∈ es, e.2.simple = true := by
      intro e he
      obtain ⟨d, hd, -, hde⟩ := exists_of_forall₂ (closeValues?_eq_some_iff.1 hes).flip he
      exact ih d.2 (value_mem_parts hd) (simpleEntries_iff.1 h d hd).2 hde
    obtain ⟨hlabelled, hfrom⟩ := labelled_of_keyedByText? hes'
    refine simpleEntries_iff.2 (fun e he => ⟨?_, ?_⟩)
    · obtain ⟨s, hs⟩ := hlabelled.texts e he
      rw [hs]
      rfl
    · obtain ⟨d, hd, hvalue⟩ := hfrom e he
      rw [← hvalue]
      exact hvalues d hd
  | null => cases hw; exact h
  | bool b => cases hw; exact h
  | int n => cases hw; exact h
  | text s => cases hw; exact h
  | date d => cases hw; exact h
  | moment m => cases hw; exact h
  | _ => cases h

theorem exists_close? (now : Moment) (v : Value) (h : v.simple = true) :
    ∃ w, close? now v = some w ∧ w.simple = true := by
  obtain ⟨w, hw⟩ := exists_close?_of_short now (shortIntegers_of_simple h)
  exact ⟨w, hw, simple_of_close? h hw⟩

end Value

namespace Renderer

/-- A simple context gives a simple scope, unless it is no map. -/
theorem scopeOf_of_simple (now : Moment) {context : Value} (h : context.simple = true) :
    (∃ scope, scopeOf now context = .ok scope ∧ Value.simpleEntries scope = true) ∨
      scopeOf now context = .error (.template ⟨.contextNotMap, none⟩) := by
  obtain ⟨v, hv, hsimple⟩ := Value.exists_close? now context h
  unfold scopeOf
  split
  · exact .inl ⟨[], rfl, rfl⟩
  · rw [hv]
    cases v with
    | map entries => exact .inl ⟨entries, rfl, hsimple⟩
    | _ => exact .inr rfl

end Renderer

end SiteTemplates
