import SiteTemplates.Value.Closed

/-!
# Values without records

The closed form of a value depends on the time only through records, which show whether they are
published.  A value without records has one closed form, whatever the time is.
-/

namespace SiteTemplates

namespace Value

mutual

/-- Whether a value holds no record. -/
def recordFree : Value → Bool
  | list items => recordFreeAll items
  | tuple items => recordFreeAll items
  | set items => recordFreeAll items
  | map entries => recordFreeEntries entries
  | record _ _ => false
  | _ => true

def recordFreeAll : List Value → Bool
  | [] => true
  | v :: rest => recordFree v && recordFreeAll rest

def recordFreeEntries : List (Value × Value) → Bool
  | [] => true
  | (k, v) :: rest => recordFree k && recordFree v && recordFreeEntries rest

end

mutual

theorem close?_of_recordFree (now now' : Moment) (v : Value) (h : v.recordFree = true) :
    close? now v = close? now' v := by
  cases v with
  | list items =>
    rw [close?, close?, closeAll?_of_recordFree now now' items h]
  | tuple items =>
    rw [close?, close?, closeAll?_of_recordFree now now' items h]
  | set items =>
    rw [close?, close?, closeAll?_of_recordFree now now' items h]
  | map entries =>
    rw [close?, close?, closeValues?_of_recordFree now now' entries h]
  | record header frontMatter => cases h
  | _ => simp only [close?]

theorem closeAll?_of_recordFree (now now' : Moment) (vs : List Value)
    (h : recordFreeAll vs = true) : closeAll? now vs = closeAll? now' vs := by
  cases vs with
  | nil => rfl
  | cons v rest =>
    rw [recordFreeAll, Bool.and_eq_true] at h
    rw [closeAll?, closeAll?, close?_of_recordFree now now' v h.1,
      closeAll?_of_recordFree now now' rest h.2]

theorem closeValues?_of_recordFree (now now' : Moment) (es : List (Value × Value))
    (h : recordFreeEntries es = true) : closeValues? now es = closeValues? now' es := by
  cases es with
  | nil => rfl
  | cons e rest =>
    obtain ⟨k, v⟩ := e
    rw [recordFreeEntries, Bool.and_eq_true, Bool.and_eq_true] at h
    rw [closeValues?, closeValues?, close?_of_recordFree now now' v h.1.2,
      closeValues?_of_recordFree now now' rest h.2]

end

end Value

end SiteTemplates
