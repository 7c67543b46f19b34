import Mathlib.Data.String.Basic
import SiteTemplates.Fingerprint.Key

/-!
# The canonical text of plain data

Plain data is built from nothing, truth values, integers, texts, lists and maps under texts
(`Value.BuiltFrom`).  Its canonical text is made of the texts of its parts: a list is written item
by item, a map entry by entry in the order of the names (`canonical_list_of_ok`,
`canonical_map_of_ok`).  So there is a text if no integer is too long, and nothing else can go wrong
(`canonical_eq_written`, `builtFrom_or_badNumber`).
-/

namespace SiteTemplates

namespace Value

/-- The integer has a text. -/
def IsShort (n : Int) : Prop := n.natAbs < tenTo maxDigits

/-- A named entry as an entry of a map. -/
def namedEntry {α : Type} (e : String × α) : Value × α := (.text e.1, e.2)

/-- Values that are built from nothing, truth values, integers of a kind, texts, lists and maps
under texts, of which each comes once. -/
inductive BuiltFrom (allowed : Int → Prop) : Value → Prop
  | null : BuiltFrom allowed .null
  | bool (b : Bool) : BuiltFrom allowed (.bool b)
  | int {n : Int} (h : allowed n) : BuiltFrom allowed (.int n)
  | text (s : String) : BuiltFrom allowed (.text s)
  | list {items : List Value} (h : ∀ v ∈ items, BuiltFrom allowed v) :
      BuiltFrom allowed (.list items)
  | map {entries : List (String × Value)} (nodup : (entries.map Prod.fst).Nodup)
      (h : ∀ e ∈ entries, BuiltFrom allowed e.2) :
      BuiltFrom allowed (.map (entries.map namedEntry))

theorem BuiltFrom.mono {allowed more : Int → Prop} {v : Value} (h : v.BuiltFrom allowed)
    (hmore : ∀ n, allowed n → more n) : v.BuiltFrom more := by
  induction h with
  | null => exact .null
  | bool b => exact .bool b
  | int h => exact .int (hmore _ h)
  | text s => exact .text s
  | list _ ih => exact .list ih
  | map nodup _ ih => exact .map nodup ih

def written (v : Value) : List Char :=
  match v.canonical with
  | .ok s => s
  | .error _ => []

theorem written_of_ok {v : Value} {s : List Char} (h : v.canonical = .ok s) : v.written = s := by
  rw [written, h]

def writtenMember (e : String × Value) : List Char :=
  canonicalText e.1.toList ++ ':' :: ' ' :: e.2.written

def byName {α : Type} (a b : String × α) : Bool := decide (a.1 ≤ b.1)

def withOutcome (e : String × Value) : String × Except Failure (List Char) := (e.1, e.2.canonical)

def memberOutcome (e : String × Except Failure (List Char)) : Except Failure (List Char) := do
  let value ← e.2
  return canonicalText e.1.toList ++ ':' :: ' ' :: value

theorem mergeSort_withOutcome (entries : List (String × Value)) :
    (entries.map withOutcome).mergeSort byName = (entries.mergeSort byName).map withOutcome := by
  have hsort := List.map_mergeSort (f := withOutcome) (r := byName) (s := byName) (l := entries)
    fun a _ b _ => rfl
  exact hsort.symm

theorem memberOutcome_of_ok {e : String × Value} {s : List Char} (h : e.2.canonical = .ok s) :
    memberOutcome (withOutcome e) = .ok (writtenMember e) := by
  rw [memberOutcome, withOutcome, writtenMember, written_of_ok h, h]
  rfl

theorem memberOutcome_of_error {e : String × Value} {f : Failure} (h : e.2.canonical = .error f) :
    memberOutcome (withOutcome e) = .error f := by
  rw [memberOutcome, withOutcome, h]
  rfl

/-! ### Items and entries -/

variable {opening closing : Char} {items : List (Except Failure (List Char))} {f : Failure}

theorem mapM_id_cons (x : Except Failure (List Char)) (items : List (Except Failure (List Char))) :
    (x :: items).mapM id = (do
      let s ← x
      let rest ← items.mapM id
      return s :: rest) := by
  rw [List.mapM_cons]
  rfl

theorem listed_of_ok (texts : List (List Char)) :
    listed opening closing (texts.map .ok) = .ok (bracketed opening closing texts) := by
  have hall : (texts.map Except.ok).mapM id = (.ok texts : Except Failure (List (List Char))) := by
    induction texts with
    | nil => rfl
    | cons s texts ih =>
      rw [List.map_cons, mapM_id_cons, ih]
      rfl
  rw [listed, hall]
  rfl

theorem listed_of_error (hall : ∀ x ∈ items, (∃ s, x = .ok s) ∨ x = .error f)
    (h : .error f ∈ items) : listed opening closing items = .error f := by
  have hfirst : items.mapM id = .error f := by
    induction items with
    | nil => cases h
    | cons x items ih =>
      obtain ⟨hx, hitems⟩ := List.forall_mem_cons.1 hall
      rw [mapM_id_cons]
      rcases hx with ⟨s, rfl⟩ | rfl
      · have hrest : .error f ∈ items := by
          rcases List.mem_cons.1 h with h | h
          · cases h
          · exact h
        rw [ih hitems hrest]
        rfl
      · rfl
  rw [listed, hfirst]
  rfl

theorem canonicalAll_eq (items : List Value) : canonicalAll items = items.map canonical := by
  induction items with
  | nil => rfl
  | cons v items ih => rw [canonicalAll, ih, List.map_cons]

theorem canonicalValues_eq (entries : List (String × Value)) :
    canonicalValues (entries.map namedEntry) =
      (entries.map withOutcome).map namedEntry := by
  induction entries with
  | nil => rfl
  | cons e entries ih =>
    rw [List.map_cons, namedEntry, canonicalValues, ih]
    rfl

theorem sortedByKey_named {α : Type} (entries : List (String × α)) :
    sortedByKey (entries.map namedEntry) = .ok ((entries.mergeSort byName).map namedEntry) := by
  have htexts : (entries.map namedEntry).all (fun e => e.1.isTextKey) = true := by
    rw [List.all_map]
    exact List.all_eq_true.2 fun e _ => rfl
  rw [sortedByKey, if_pos (.inr (.inl htexts)), List.map_mergeSort]
  exact fun a _ b _ => rfl

/-- **A map of named values** is written in the order of the names. -/
theorem canonical_map_named (entries : List (String × Value)) :
    canonical (.map (entries.map namedEntry)) =
      listed '{' '}' (((entries.map withOutcome).mergeSort byName).map memberOutcome) := by
  rw [canonical, mapped, canonicalValues_eq, sortedByKey_named]
  show listed '{' '}' (List.map _ _) = _
  rw [List.map_map]
  rfl

theorem canonical_list_of_ok {items : List Value} (h : ∀ v ∈ items, v.canonical = .ok v.written) :
    canonical (.list items) = .ok (bracketed '[' ']' (items.map written)) := by
  have htexts : items.map canonical = (items.map written).map .ok := by
    rw [List.map_map]
    exact List.map_congr_left h
  rw [canonical, canonicalAll_eq, htexts, listed_of_ok]

theorem canonical_map_of_ok {entries : List (String × Value)}
    (h : ∀ e ∈ entries, e.2.canonical = .ok e.2.written) :
    canonical (.map (entries.map namedEntry)) =
      .ok (bracketed '{' '}' ((entries.mergeSort byName).map writtenMember)) := by
  have htexts : ((entries.mergeSort byName).map withOutcome).map memberOutcome =
      ((entries.mergeSort byName).map writtenMember).map .ok := by
    rw [List.map_map, List.map_map]
    exact List.map_congr_left fun e he => memberOutcome_of_ok (h e (List.mem_mergeSort.1 he))
  rw [canonical_map_named, mergeSort_withOutcome, htexts, listed_of_ok]

/-! ### When there is a text -/

theorem canonicalInt_of_isShort {n : Int} (h : IsShort n) :
    canonicalInt n = .ok (toString n).toList := by
  have hn : n.natAbs < tenTo maxDigits := h
  unfold canonicalInt writeInteger?
  rw [if_pos hn]

theorem canonicalInt_of_not_isShort {n : Int} (h : ¬ IsShort n) :
    canonicalInt n = .error .badNumber := by
  have hn : ¬ n.natAbs < tenTo maxDigits := h
  unfold canonicalInt writeInteger?
  rw [if_neg hn]

/-- Where no integer is too long there is a text. -/
theorem canonical_eq_written {v : Value} (h : v.BuiltFrom IsShort) :
    v.canonical = .ok v.written := by
  have hself : ∀ {v : Value} {s : List Char}, v.canonical = .ok s →
      v.canonical = .ok v.written := by
    intro v s h
    rw [written_of_ok h, h]
  induction h with
  | null => exact hself (by rw [canonical])
  | bool b => exact hself (by rw [canonical])
  | @int n h =>
    have hint : (Value.int n).canonical = canonicalInt n := by rw [canonical]
    exact hself (hint.trans (canonicalInt_of_isShort h))
  | text s => exact hself (by rw [canonical])
  | list _ ih => exact hself (canonical_list_of_ok ih)
  | map _ _ ih => exact hself (canonical_map_of_ok ih)

theorem written_bool (b : Bool) :
    written (.bool b) = if b then "true".toList else "false".toList :=
  written_of_ok (by rw [canonical])

theorem written_int {n : Int} (h : IsShort n) : written (.int n) = (toString n).toList :=
  written_of_ok (by rw [canonical]; exact canonicalInt_of_isShort h)

theorem written_text (s : String) : written (.text s) = canonicalText s.toList :=
  written_of_ok (by rw [canonical])

theorem written_list {items : List Value} (h : ∀ v ∈ items, v.BuiltFrom IsShort) :
    written (.list items) = bracketed '[' ']' (items.map written) :=
  written_of_ok (canonical_list_of_ok fun v hv => canonical_eq_written (h v hv))

theorem written_map {entries : List (String × Value)} (h : ∀ e ∈ entries, e.2.BuiltFrom IsShort) :
    written (.map (entries.map namedEntry)) =
      bracketed '{' '}' ((entries.mergeSort byName).map writtenMember) :=
  written_of_ok (canonical_map_of_ok fun e he => canonical_eq_written (h e he))

/-- Some of the values are not written, for one reason only, or all are of the kind that is. -/
theorem all_or_error {vs : List Value}
    (h : ∀ v ∈ vs, v.BuiltFrom IsShort ∨ v.canonical = .error .badNumber) :
    (∀ v ∈ vs, v.BuiltFrom IsShort) ∨ ∃ v ∈ vs, v.canonical = .error .badNumber := by
  by_cases hall : ∀ v ∈ vs, v.BuiltFrom IsShort
  · exact .inl hall
  · push Not at hall
    obtain ⟨v, hv, hlong⟩ := hall
    exact .inr ⟨v, hv, (h v hv).resolve_left hlong⟩

/-- **The only failure** is an integer that is too long. -/
theorem builtFrom_or_badNumber {v : Value} (h : v.BuiltFrom fun _ => True) :
    v.BuiltFrom IsShort ∨ v.canonical = .error .badNumber := by
  have hitem : ∀ {v : Value}, v.BuiltFrom IsShort ∨ v.canonical = .error .badNumber →
      (∃ s, v.canonical = .ok s) ∨ v.canonical = .error .badNumber :=
    fun h => h.imp_left fun h => ⟨_, canonical_eq_written h⟩
  induction h with
  | null => exact .inl .null
  | bool b => exact .inl (.bool b)
  | @int n h =>
    by_cases hn : IsShort n
    · exact .inl (.int hn)
    · right
      rw [canonical]
      exact canonicalInt_of_not_isShort hn
  | text s => exact .inl (.text s)
  | @list items _ ih =>
    rcases all_or_error ih with hall | ⟨v, hv, hbad⟩
    · exact .inl (.list hall)
    · right
      rw [canonical, canonicalAll_eq]
      refine listed_of_error (fun x hx => ?_) (List.mem_map.2 ⟨v, hv, hbad⟩)
      obtain ⟨v, hv, rfl⟩ := List.mem_map.1 hx
      exact hitem (ih v hv)
  | @map entries nodup _ ih =>
    have hvalues : ∀ v ∈ entries.map Prod.snd,
        v.BuiltFrom IsShort ∨ v.canonical = .error .badNumber := by
      intro v hv
      obtain ⟨e, he, rfl⟩ := List.mem_map.1 hv
      exact ih e he
    rcases all_or_error hvalues with hall | ⟨v, hv, hbad⟩
    · exact .inl (.map nodup fun e he => hall e.2 (List.mem_map_of_mem he))
    · right
      obtain ⟨e, he, rfl⟩ := List.mem_map.1 hv
      rw [canonical_map_named, mergeSort_withOutcome, List.map_map]
      refine listed_of_error (fun x hx => ?_)
        (List.mem_map.2 ⟨e, List.mem_mergeSort.2 he, memberOutcome_of_error hbad⟩)
      obtain ⟨d, hd, rfl⟩ := List.mem_map.1 hx
      rcases hitem (ih d (List.mem_mergeSort.1 hd)) with ⟨s, hs⟩ | hs
      · exact .inl ⟨_, memberOutcome_of_ok hs⟩
      · exact .inr (memberOutcome_of_error hs)

end Value

end SiteTemplates
