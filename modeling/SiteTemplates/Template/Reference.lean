import SiteTemplates.Text.Blank
import SiteTemplates.Text.Quotation

/-!
# References to partials

`partialNames` finds the partials that a source names, without reading it as a template: it looks at
every `{{` for a `>` after optional blanks and then for the first closing brace, which has to be the
first of two.  It is a search of its own and asks nothing of the rest of the source.
-/

namespace SiteTemplates

open Text

/-- The text up to the first `}` and what follows `}}`, if the first `}` is one of two. -/
def beforeClose? (s : List Char) : Option (List Char × List Char) :=
  match s.dropWhile (· != '}') with
  | '}' :: '}' :: rest => some (s.takeWhile (· != '}'), rest)
  | _ => none

/-- The name in a partial tag whose opening braces come just before `s`, perhaps an empty one, and
what follows the tag. -/
def partialTag? (s : List Char) : Option (List Char × List Char) :=
  match trimStart s with
  | '>' :: body => (beforeClose? body).map (fun (name, rest) => (unquote (trim name), rest))
  | _ => none

theorem length_dropWhile_le (p : Char → Bool) (s : List Char) :
    (s.dropWhile p).length ≤ s.length :=
  (List.dropWhile_sublist p).length_le

theorem length_of_beforeClose? {s name rest : List Char}
    (h : beforeClose? s = some (name, rest)) : rest.length < s.length := by
  unfold beforeClose? at h
  split at h
  · rename_i r hr
    simp only [Option.some.injEq, Prod.mk.injEq] at h
    have := length_dropWhile_le (· != '}') s
    rw [hr, h.2] at this
    simp only [List.length_cons] at this
    omega
  · simp at h

theorem length_of_partialTag? {s name rest : List Char}
    (h : partialTag? s = some (name, rest)) : rest.length < s.length := by
  unfold partialTag? at h
  split at h
  · rename_i body hb
    simp only [Option.map_eq_some_iff, Prod.mk.injEq, Prod.exists] at h
    obtain ⟨n, r, hc, -, rfl⟩ := h
    have h1 := length_of_beforeClose? hc
    have h2 := length_dropWhile_le isBlank s
    have h3 : (trimStart s).length = body.length + 1 := by rw [hb]; rfl
    unfold trimStart at h3
    omega
  · simp at h

/-- The names in `s`, in order and as often as they occur, after those in `done` (last first). -/
def partialNamesFrom (done : List (List Char)) (s : List Char) : List (List Char) :=
  match s with
  | [] => done.reverse
  | '{' :: '{' :: body =>
    match h : partialTag? body with
    | some (name, rest) =>
      have := length_of_partialTag? h
      partialNamesFrom (if name.isEmpty then done else name :: done) rest
    | none => partialNamesFrom done ('{' :: body)
  | _ :: rest => partialNamesFrom done rest
termination_by s.length
decreasing_by all_goals simp only [List.length_cons] at *; omega

def sortedNames (names : List String) : List String :=
  names.eraseDups.mergeSort (fun a b => decide (a ≤ b))

/-- The names of the partials that a source refers to, sorted, each once. -/
def partialNames (source : String) : List String :=
  sortedNames ((partialNamesFrom [] source.toList).map String.ofList)

end SiteTemplates
