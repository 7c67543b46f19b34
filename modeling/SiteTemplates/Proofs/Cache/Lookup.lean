import SiteTemplates.Cache.Manager
import SiteTemplates.Proofs.Calendar.Reading

/-!
# What the caches hold after an operation

The operations of the caches, seen through lookups.  Writing a text puts it under its key, and all
that it can do besides is drive another one out; invalidation takes away the keys that match.  A
template that is written is found under its name, and other names are found as before.
-/

namespace SiteTemplates

/-- The failure of a rendering for a key: a fault of a template names the key as well. -/
def Failure.forKey (key : String) : Failure → Failure
  | .template e => .render key e
  | e => e

/-! ### Stamps -/

section Stamps

variable {t : Moment} {zone : Zone}

theorem stampOf_eq_error_iff {f : Failure} :
    stampOf t zone = .error f ↔ f = .outOfRange ∧ t.toLocal? zone = none := by
  unfold stampOf
  cases t.toLocal? zone with
  | none => simp [eq_comm]
  | some l => simp

theorem stampOf_of_isSome (h : (t.toLocal? zone).isSome = true) :
    stampOf t zone = .ok (t.shownIn zone) := by
  obtain ⟨l, hl⟩ := Option.isSome_iff_exists.1 h
  rw [stampOf, hl]
  exact congrArg Except.ok (Moment.instant_of_toLocal? hl).2

/-- A local clock of universal time shows the instant. -/
theorem stampOf_utc (t : Moment) :
    stampOf t = if t.toLocal?.isSome then .ok t.instant else .error .outOfRange := by
  by_cases h : t.toLocal?.isSome = true
  · rw [stampOf_of_isSome h, if_pos h, Moment.shownIn_utc]
  · rw [if_neg h, stampOf_eq_error_iff]
    exact ⟨rfl, by simpa using h⟩

end Stamps

namespace Stamped

variable {α : Type} {zone : Zone}

theorem current_none (threshold : Option Moment) :
    current (none : Option (Stamped α)) threshold zone = .ok none := by
  cases threshold <;> rfl

theorem current_any (e : Stamped α) : current (some e) none zone = .ok (some e.value) := rfl

theorem current_since (e : Stamped α) (t : Moment) :
    current (some e) (some t) zone =
      (stampOf t zone).map (fun stamp => if e.isFresh stamp then some e.value else none) := rfl

theorem exists_of_current_some {e? : Option (Stamped α)} {threshold : Option Moment} {v : α}
    (h : current e? threshold zone = .ok (some v)) : ∃ e, e? = some e ∧ e.value = v := by
  cases e? with
  | none =>
    rw [current_none] at h
    cases h
  | some e =>
    refine ⟨e, rfl, ?_⟩
    cases threshold with
    | none =>
      cases h
      rfl
    | some t =>
      rw [current_since] at h
      cases hs : stampOf t zone with
      | error f =>
        rw [hs] at h
        cases h
      | ok stamp =>
        rw [hs] at h
        have hv : (if e.isFresh stamp then some e.value else none) = some v := Except.ok.inj h
        split at hv
        · exact Option.some.inj hv
        · cases hv

/-- A comparison fails for a threshold that the local clock cannot show, where there is an entry to
compare, and never otherwise. -/
theorem current_eq_error_iff {e? : Option (Stamped α)} {threshold : Option Moment} {f : Failure} :
    current e? threshold zone = .error f ↔ f = .outOfRange ∧ e?.isSome = true ∧
      threshold.any (fun t => (t.toLocal? zone).isNone) = true := by
  cases e? with
  | none =>
    rw [current_none]
    simp
  | some e =>
    cases threshold with
    | none =>
      rw [current_any]
      simp
    | some t =>
      have hs := @stampOf_eq_error_iff t zone f
      rw [current_since, Option.any_some, Option.isNone_iff_eq_none]
      cases hst : stampOf t zone with
      | error f' =>
        rw [hst] at hs
        simpa [Except.map] using hs
      | ok stamp =>
        rw [hst] at hs
        simpa [Except.map] using hs

end Stamped

/-! ### Rendered text -/

namespace RenderCache

variable {c : RenderCache} {key k : String} {e : Stamped String}

theorem get?_of_makeRoom (h : (c.makeRoom key).entries.get? k = some e) :
    c.entries.get? k = some e := by
  unfold makeRoom at h
  split at h
  · exact h
  · split at h
    · rw [Table.get?_erase] at h
      split at h
      · cases h
      · exact h
    · exact h

theorem get?_insert_self (value : String) (stamp : Int) :
    (c.insert key value stamp).entries.get? key = some ⟨value, stamp⟩ := by
  rw [insert, Table.get?_insert, if_pos rfl]

theorem get?_of_insert {value : String} {stamp : Int}
    (h : (c.insert key value stamp).entries.get? k = some e) :
    (k = key ∧ e = ⟨value, stamp⟩) ∨ c.entries.get? k = some e := by
  rw [insert, Table.get?_insert] at h
  split at h
  · rename_i hk
    exact .inl ⟨hk, (Option.some.inj h).symm⟩
  · exact .inr (get?_of_makeRoom h)

theorem get?_invalidate (pattern : String) :
    (c.invalidate pattern).entries.get? k =
      if keyMatches pattern k then none else c.entries.get? k := by
  have h := Table.lookup_filter_keys c.entries.entries (fun k => !keyMatches pattern k) k
  simp only [invalidate, Table.filter, Table.get?]
  rw [h]
  cases keyMatches pattern k <;> rfl

/-- A single star matches every key. -/
theorem keyMatches_star (key : String) : keyMatches "*" key = true := by
  have hs : Text.splitAll '*' "*".toList = [[], []] := by decide
  unfold keyMatches Text.globMatches
  rw [hs]
  simp [Text.holdsParts]

theorem get?_invalidate_star : (c.invalidate "*").entries.get? k = none := by
  rw [get?_invalidate, keyMatches_star, if_pos rfl]

theorem entries_count (found : Option String) : (c.count found).entries = c.entries := by
  unfold count
  split <;> rfl

end RenderCache

/-! ### Templates -/

namespace TemplateCache

variable {c : TemplateCache}

theorem isInvalidated_put (now : Moment) (name : String) (t : Template) (n : String) :
    (c.put now name t).isInvalidated n = if n = name then false else c.isInvalidated n := by
  unfold isInvalidated put Table.contains
  rw [Table.get?_erase]
  split <;> rfl

theorem get?_put (now : Moment) (name : String) (t : Template) (n : String) :
    (c.put now name t).get? n = if n = name then some t else c.get? n := by
  have he : (c.put now name t).entries.get? n =
      if n = name then some ⟨t, now.instant⟩ else c.entries.get? n := Table.get?_insert _ _ _ _
  unfold get? entry?
  rw [isInvalidated_put, he]
  by_cases h : n = name
  · rw [if_pos h, if_pos h, if_pos h, if_neg Bool.false_ne_true]
    rfl
  · rw [if_neg h, if_neg h, if_neg h]

end TemplateCache

/-! ### The caches together -/

namespace CacheManager

variable {c : CacheManager}

theorem get?_ofCapacity {capacity : Int} (h : ofCapacity capacity = .ok c) (key : String) :
    c.renders.entries.get? key = none := by
  unfold ofCapacity RenderCache.ofCapacity at h
  split at h
  · cases h
    rfl
  · cases h

theorem cacheRecord_eq_ok {key : String} {r : Record} {c' : CacheManager}
    (h : c.cacheRecord key r = .ok c') : c'.renders = c.renders ∧ c'.templates = c.templates := by
  unfold cacheRecord at h
  cases hp : c.contents.put key r none with
  | error e => rw [hp] at h; cases h
  | ok contents =>
    rw [hp] at h
    cases h
    exact ⟨rfl, rfl⟩

theorem cacheRecords_fst (records : List Record) (c : CacheManager) :
    (cacheRecords records c).1.renders = c.renders ∧
      (cacheRecords records c).1.templates = c.templates := by
  induction records generalizing c with
  | nil => exact ⟨rfl, rfl⟩
  | cons r rest ih =>
    unfold cacheRecords
    cases h : c.cacheRecord r.header.slug r with
    | error e => exact ⟨rfl, rfl⟩
    | ok c' =>
      obtain ⟨hr, ht⟩ := cacheRecord_eq_ok h
      obtain ⟨hr', ht'⟩ := ih c'
      exact ⟨hr'.trans hr, ht'.trans ht⟩

theorem getRendered_eq_ok {key : String} {threshold : Option Moment} {c' : CacheManager}
    {found : Option String} (h : c.getRendered key threshold = .ok (c', found)) :
    c.renders.peek key threshold = .ok found ∧
      c' = { c with renders := c.renders.count found } := by
  unfold getRendered RenderCache.get at h
  cases hp : c.renders.peek key threshold with
  | error e => rw [hp] at h; cases h
  | ok f =>
    rw [hp] at h
    cases h
    exact ⟨rfl, rfl⟩

variable {s : RenderSettings} {now : Moment} {name : String} {context : Value} {key : String}
  {threshold : Option Moment}

theorem renderCached_of_error {e : Failure} (h : c.renders.peek key threshold = .error e) :
    c.renderCached s now name context key threshold = (c, .error e) := by
  unfold renderCached getRendered RenderCache.get
  rw [h]
  rfl

theorem renderCached_of_found {text : String}
    (h : c.renders.peek key threshold = .ok (some text)) :
    c.renderCached s now name context key threshold =
      ({ c with renders := c.renders.count (some text) }, .ok text) := by
  unfold renderCached getRendered RenderCache.get
  rw [h]
  rfl

/-- What is not found is rendered, and kept if that succeeds. -/
theorem renderCached_of_missed (h : c.renders.peek key threshold = .ok none) :
    c.renderCached s now name context key threshold =
      let fresh := (c.renderer s).renderTemplate now name context
      let renders := c.renders.count none
      (match fresh with
        | .ok text => { c with renders := renders.insert key text now.instant }
        | .error _ => { c with renders }, fresh.mapError (Failure.forKey key)) := by
  unfold renderCached getRendered RenderCache.get
  rw [h]
  have hr : ({ c with renders := c.renders.count none } : CacheManager).renderer s =
      c.renderer s := rfl
  simp only [Except.map, hr]
  cases (c.renderer s).renderTemplate now name context with
  | ok text => rfl
  | error e => cases e <;> rfl

end CacheManager

end SiteTemplates
