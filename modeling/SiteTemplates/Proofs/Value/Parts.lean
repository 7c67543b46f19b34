import SiteTemplates.Value.Text

/-!
# The parts of a value

Values are nested by their items and entries, and what holds of a value as soon as it holds of its
parts holds of every value (`induction_on_parts`).  That carries the facts that hang on the kind of
a value alone.

The first one is about texts.  The one thing that has no text is an integer with too many digits, so
a value has one where there is no such integer at any depth (`exists_plain?_of_short`).
-/

namespace SiteTemplates

open Text

namespace Value

/-! ### Parts -/

/-- The values that a value is directly made of, keys included. -/
def parts : Value → List Value
  | list items => items
  | tuple items => items
  | set items => items
  | map entries => entries.flatMap (fun e => [e.1, e.2])
  | record _ frontMatter => frontMatter.flatMap (fun e => [e.1, e.2])
  | _ => []

mutual

/-- What holds of a value as soon as it holds of its parts holds of every value. -/
theorem induction_on_parts {motive : Value → Prop}
    (h : ∀ v, (∀ u ∈ v.parts, motive u) → motive v) (v : Value) : motive v := by
  refine h v ?_
  cases v with
  | list items => exact forall_of_parts h items
  | tuple items => exact forall_of_parts h items
  | set items => exact forall_of_parts h items
  | map entries => exact forall_entries_of_parts h entries
  | record header frontMatter => exact forall_entries_of_parts h frontMatter
  | _ =>
    intro u hu
    cases hu

theorem forall_of_parts {motive : Value → Prop}
    (h : ∀ v, (∀ u ∈ v.parts, motive u) → motive v) (vs : List Value) : ∀ u ∈ vs, motive u := by
  cases vs with
  | nil =>
    intro u hu
    cases hu
  | cons v rest =>
    have hv := induction_on_parts h v
    have hrest := forall_of_parts h rest
    intro u hu
    rcases List.mem_cons.1 hu with rfl | hu
    · exact hv
    · exact hrest u hu

theorem forall_entries_of_parts {motive : Value → Prop}
    (h : ∀ v, (∀ u ∈ v.parts, motive u) → motive v) (es : List (Value × Value)) :
    ∀ u ∈ es.flatMap (fun e => [e.1, e.2]), motive u := by
  cases es with
  | nil =>
    intro u hu
    cases hu
  | cons e rest =>
    obtain ⟨k, v⟩ := e
    have hk := induction_on_parts h k
    have hv := induction_on_parts h v
    have hrest := forall_entries_of_parts h rest
    intro u hu
    rw [List.flatMap_cons] at hu
    rcases List.mem_append.1 hu with hu | hu
    · have hu : u = k ∨ u = v := by simpa using hu
      rcases hu with rfl | rfl
      · exact hk
      · exact hv
    · exact hrest u hu

end

theorem key_mem_parts {es : List (Value × Value)} {e : Value × Value} (h : e ∈ es) :
    e.1 ∈ es.flatMap (fun e => [e.1, e.2]) :=
  List.mem_flatMap.2 ⟨e, h, List.mem_cons_self⟩

theorem value_mem_parts {es : List (Value × Value)} {e : Value × Value} (h : e ∈ es) :
    e.2 ∈ es.flatMap (fun e => [e.1, e.2]) :=
  List.mem_flatMap.2 ⟨e, h, List.mem_cons_of_mem _ List.mem_cons_self⟩

/-! ### Integers with a text -/

mutual

/-- Whether no integer in a value, keys included, has too many digits for a text. -/
def shortIntegers : Value → Bool
  | int n => n.natAbs < tenTo maxDigits
  | list items => shortIntegersAll items
  | tuple items => shortIntegersAll items
  | set items => shortIntegersAll items
  | map entries => shortIntegersEntries entries
  | record _ frontMatter => shortIntegersEntries frontMatter
  | _ => true

def shortIntegersAll : List Value → Bool
  | [] => true
  | v :: rest => shortIntegers v && shortIntegersAll rest

def shortIntegersEntries : List (Value × Value) → Bool
  | [] => true
  | (k, v) :: rest => shortIntegers k && shortIntegers v && shortIntegersEntries rest

end

theorem shortIntegersAll_iff {vs : List Value} :
    shortIntegersAll vs = true ↔ ∀ v ∈ vs, v.shortIntegers = true := by
  induction vs with
  | nil => simp [shortIntegersAll]
  | cons v rest ih => simp [shortIntegersAll, ih]

theorem shortIntegersEntries_iff {es : List (Value × Value)} : shortIntegersEntries es = true ↔
    ∀ e ∈ es, e.1.shortIntegers = true ∧ e.2.shortIntegers = true := by
  induction es with
  | nil => simp [shortIntegersEntries]
  | cons e rest ih => simp [shortIntegersEntries, ih, and_assoc]

theorem exists_spelledAll? {vs : List Value} (h : ∀ v ∈ vs, ∃ s, v.spelled? = some s) :
    ∃ ss, spelledAll? vs = some ss := by
  induction vs with
  | nil => exact ⟨[], rfl⟩
  | cons v rest ih =>
    obtain ⟨s, hs⟩ := h v List.mem_cons_self
    obtain ⟨ss, hss⟩ := ih (fun u hu => h u (List.mem_cons_of_mem v hu))
    exact ⟨s :: ss, by rw [spelledAll?, hs, hss]⟩

theorem exists_spelledEntries? {es : List (Value × Value)}
    (h : ∀ e ∈ es, (∃ s, e.1.spelled? = some s) ∧ ∃ s, e.2.spelled? = some s) :
    ∃ ss, spelledEntries? es = some ss := by
  induction es with
  | nil => exact ⟨[], rfl⟩
  | cons e rest ih =>
    obtain ⟨⟨key, hkey⟩, value, hvalue⟩ := h e List.mem_cons_self
    obtain ⟨ss, hss⟩ := ih (fun d hd => h d (List.mem_cons_of_mem e hd))
    exact ⟨_, by rw [spelledEntries?, hkey, hvalue, hss]⟩

/-- A value in which no integer has too many digits can be spelled out. -/
theorem exists_spelled?_of_short {v : Value} (h : v.shortIntegers = true) :
    ∃ s, v.spelled? = some s := by
  induction v using induction_on_parts with
  | _ v ih =>
  have hentries : ∀ es : List (Value × Value),
      (∀ u ∈ es.flatMap (fun e => [e.1, e.2]), u.shortIntegers = true → ∃ s, u.spelled? = some s) →
      shortIntegersEntries es = true → ∃ ss, spelledEntries? es = some ss := by
    intro es hes hshort
    refine exists_spelledEntries? (fun e he => ?_)
    obtain ⟨hk, hv⟩ := shortIntegersEntries_iff.1 hshort e he
    exact ⟨hes e.1 (key_mem_parts he) hk, hes e.2 (value_mem_parts he) hv⟩
  have hitems : ∀ vs : List Value,
      (∀ u ∈ vs, u.shortIntegers = true → ∃ s, u.spelled? = some s) →
      shortIntegersAll vs = true → ∃ ss, spelledAll? vs = some ss := by
    intro vs hvs hshort
    exact exists_spelledAll? (fun u hu => hvs u hu (shortIntegersAll_iff.1 hshort u hu))
  cases v with
  | int n =>
    have hn : n.natAbs < tenTo maxDigits := by simpa only [shortIntegers, decide_eq_true_eq] using h
    exact ⟨_, by rw [spelled?, writeInteger?, if_pos hn]; rfl⟩
  | list items =>
    obtain ⟨ss, hss⟩ := hitems items ih h
    exact ⟨_, by rw [spelled?, hss]; rfl⟩
  | tuple items =>
    obtain ⟨ss, hss⟩ := hitems items ih h
    exact ⟨_, by rw [spelled?, hss]; rfl⟩
  | set items =>
    obtain ⟨ss, hss⟩ := hitems items ih h
    exact ⟨_, by rw [spelled?, hss]; rfl⟩
  | map entries =>
    obtain ⟨ss, hss⟩ := hentries entries ih h
    exact ⟨_, by rw [spelled?, hss]; rfl⟩
  | record header frontMatter =>
    obtain ⟨ss, hss⟩ := hentries frontMatter ih h
    exact ⟨_, by rw [spelled?, hss]; rfl⟩
  | _ => exact ⟨_, by rw [spelled?]⟩

theorem exists_plain?_of_short {v : Value} (h : v.shortIntegers = true) :
    ∃ s, v.plain? = some s := by
  have hspelled := exists_spelled?_of_short h
  cases v with
  | text s => exact ⟨_, rfl⟩
  | date d => exact ⟨_, rfl⟩
  | moment m => exact ⟨_, rfl⟩
  | _ => exact hspelled

end Value

end SiteTemplates
