import SiteTemplates.Value.Path

/-!
# What a path finds in a scope

A path looks at a scope once, for the name before its first point; from there on it walks through
what that name found (`resolve?_congr`).  Writing an entry changes what is found under its own key
only (`lookup?_put`).  So two scopes that agree on a name agree on it in the body of a loop as well,
whatever entries the item brings (`lookup?_loopScope_congr`).
-/

namespace SiteTemplates

namespace Text

theorem exists_splitAllFrom_eq (separator : Char) (part : List Char) (done : List (List Char))
    (s : List Char) : ∃ rest, splitAllFrom separator part done s =
      done.reverse ++ (part.reverse ++ s.takeWhile (· != separator)) :: rest := by
  induction s generalizing part done with
  | nil => exact ⟨[], by simp [splitAllFrom]⟩
  | cons c s ih =>
    rw [splitAllFrom]
    by_cases hc : c = separator
    · obtain ⟨rest, h⟩ := ih [] (part.reverse :: done)
      refine ⟨s.takeWhile (· != separator) :: rest, ?_⟩
      rw [if_pos hc, h]
      simp [hc]
    · obtain ⟨rest, h⟩ := ih (c :: part) done
      refine ⟨rest, ?_⟩
      rw [if_neg hc, h]
      simp [hc]

/-- The first part of a text is what stands before the first separator. -/
theorem exists_splitAll_eq (separator : Char) (s : List Char) :
    ∃ rest, splitAll separator s = s.takeWhile (· != separator) :: rest :=
  exists_splitAllFrom_eq separator [] [] s

end Text

namespace Value

open Text

/-- The name before the first point of a path. -/
def firstName (path : String) : String := String.ofList (path.toList.takeWhile (· != '.'))

/-! ### Entries -/

variable {name : String} {key value : Value} {s s' es : List (Value × Value)}

theorem isText_iff {v : Value} : v.isText name = true ↔ v = text name := by
  cases v <;> simp [isText]

theorem same_text {v : Value} : v.same (text name) = v.isText name := by
  cases v <;> simp [same, isText, integer?]

theorem text_same {v : Value} : (text name).same v = v.isText name := by
  cases v <;> simp [same, isText, integer?, BEq.comm]

/-- Keys that are equal are the same text, or both are no text. -/
theorem isText_of_same {a b : Value} (h : a.same b = true) : a.isText name = b.isText name := by
  rw [Bool.eq_iff_iff]
  constructor
  · intro ha
    rw [isText_iff.1 ha, text_same] at h
    exact h
  · intro hb
    rw [isText_iff.1 hb, same_text] at h
    exact h

theorem lookup?_cons (k v : Value) : lookup? name ((k, v) :: es) =
    if k.isText name then some v else lookup? name es := by
  unfold lookup?
  rw [List.find?_cons]
  cases k.isText name <;> rfl

/-- An entry that is written is found under its own key, and no other name finds anything new. -/
theorem lookup?_put : lookup? name (put key value es) =
    if key.isText name then some value else lookup? name es := by
  induction es with
  | nil => exact lookup?_cons key value
  | cons e rest ih =>
    obtain ⟨k, v⟩ := e
    rw [put]
    by_cases hk : k.same key = true
    · rw [if_pos hk, lookup?_cons, lookup?_cons, isText_of_same hk]
      split <;> rfl
    · rw [if_neg hk, lookup?_cons, lookup?_cons, ih]
      by_cases hn : k.isText name = true
      · have hkey : ¬ key.isText name = true := by
          intro h
          rw [isText_iff.1 h, same_text] at hk
          exact hk hn
        rw [if_pos hn, if_neg hkey, if_pos hn]
      · rw [if_neg hn, if_neg hn]

/-! ### Agreement on a name -/

theorem lookup?_overlay_congr (h : lookup? name s = lookup? name s') (es : List (Value × Value)) :
    lookup? name (overlay s es) = lookup? name (overlay s' es) := by
  induction es generalizing s s' with
  | nil => exact h
  | cons e rest ih =>
    refine ih ?_
    rw [lookup?_put, lookup?_put, h]

theorem lookup?_loopScope_congr (h : lookup? name s = lookup? name s') (item : Value) :
    lookup? name (loopScope s item) = lookup? name (loopScope s' item) := by
  simp only [loopScope, lookup?_put]
  cases item with
  | map entries => rw [lookup?_overlay_congr h]
  | _ => rw [h]

/-- What a path finds hangs on its first name alone. -/
theorem resolve?_congr {path : String}
    (h : lookup? (firstName path) s = lookup? (firstName path) s') :
    resolve? path s = resolve? path s' := by
  obtain ⟨rest, hsplit⟩ := exists_splitAll_eq '.' path.toList
  rw [firstName] at h
  simp only [resolve?, hsplit, walk?, step?, h]

end Value

end SiteTemplates
