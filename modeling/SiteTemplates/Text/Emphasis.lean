import SiteTemplates.Text.Blank
import SiteTemplates.Text.Letter

/-!
# Emphasis

Marks around a stretch of text make it strong (two stars or two low lines) or stress it (one star or
one low line).  A stretch is not empty and neither begins nor ends with a blank, and of all places
where it may end the first one counts.  A single low line marks nothing inside a word.

`emphasize` makes three passes over the text: strong marks, stars, low lines.  Each pass writes its
tags into the text that the next one reads.
-/

namespace SiteTemplates.Text

/-- A mark and the tag that it stands for, and whether no letter may come just before the first or
just after the second mark. -/
structure EmphasisMark where
  text : List Char
  tag : List Char
  apart : Bool
deriving DecidableEq, Repr

def beginsSolid (s : List Char) : Bool := s.head?.any (!isBlank ·)

def beginsWord (s : List Char) : Bool := s.head?.any isWordChar

namespace EmphasisMark

def after? (m : EmphasisMark) (s : List Char) : Option (List Char) :=
  if m.text.isPrefixOf s then some (s.drop m.text.length) else none

/-- What follows the second mark, where it can end the stretch `body` (last first). -/
def closes? (m : EmphasisMark) (body s : List Char) : Option (List Char) :=
  if beginsSolid body then
    match m.after? s with
    | some rest => if m.apart && beginsWord rest then none else some rest
    | none => none
  else none

/-- The stretch and what follows its second mark, after the start `body` of the stretch (last
first). -/
def stretch? (m : EmphasisMark) (body : List Char) : List Char → Option (List Char × List Char)
  | [] => none
  | c :: s =>
    match m.closes? body (c :: s) with
    | some rest => some (body.reverse, rest)
    | none => m.stretch? (c :: body) s

/-- The stretch at the start of a text and what follows its second mark; `before` is the character
before the text. -/
def span? (m : EmphasisMark) (before : Option Char) (s : List Char) :
    Option (List Char × List Char) :=
  match m.after? s with
  | some inner =>
    if beginsSolid inner && !(m.apart && before.any isWordChar) then m.stretch? [] inner else none
  | none => none

def tagged (m : EmphasisMark) (body : List Char) : List Char :=
  '<' :: m.tag ++ '>' :: body ++ '<' :: '/' :: m.tag ++ ['>']

theorem length_of_after? {m : EmphasisMark} {s rest : List Char} (h : m.after? s = some rest) :
    rest.length ≤ s.length := by
  unfold after? at h
  split at h
  · simp only [Option.some.injEq] at h
    rw [← h, List.length_drop]
    omega
  · simp at h

theorem length_of_closes? {m : EmphasisMark} {body s rest : List Char}
    (h : m.closes? body s = some rest) : rest.length ≤ s.length := by
  unfold closes? at h
  split at h
  · split at h
    · split at h
      · simp at h
      · simp only [Option.some.injEq] at h
        subst h
        exact length_of_after? (by assumption)
    · simp at h
  · simp at h

theorem length_of_stretch? {m : EmphasisMark} {body s inner rest : List Char}
    (h : m.stretch? body s = some (inner, rest)) : rest.length ≤ s.length := by
  induction s generalizing body with
  | nil => simp [stretch?] at h
  | cons c s ih =>
    simp only [stretch?] at h
    split at h
    · rename_i r hr
      simp only [Option.some.injEq, Prod.mk.injEq] at h
      obtain ⟨-, rfl⟩ := h
      exact length_of_closes? hr
    · have := ih h
      simp only [List.length_cons]
      omega

theorem length_of_span? {m : EmphasisMark} {before : Option Char} {s inner rest : List Char}
    (h : m.span? before s = some (inner, rest)) : rest.length < s.length := by
  unfold span? at h
  split at h
  · rename_i t ht
    split at h
    · cases t with
      | nil => simp [stretch?] at h
      | cons c t =>
        have h1 := length_of_after? ht
        have h2 : m.stretch? [c] t = some (inner, rest) := by
          simpa [stretch?, closes?, beginsSolid] using h
        have h3 := length_of_stretch? h2
        simp only [List.length_cons] at h1
        omega
    · simp at h
  · simp at h

end EmphasisMark

/-- The first of several marks that makes a stretch at the start of a text, the stretch, and what
follows it. -/
def spanOf? (before : Option Char) (s : List Char) :
    List EmphasisMark → Option (EmphasisMark × List Char × List Char)
  | [] => none
  | m :: marks =>
    match m.span? before s with
    | some (body, after) => some (m, body, after)
    | none => spanOf? before s marks

theorem length_of_spanOf? {before : Option Char} {s body after : List Char} {m : EmphasisMark}
    {marks : List EmphasisMark} (h : spanOf? before s marks = some (m, body, after)) :
    after.length < s.length := by
  induction marks with
  | nil => simp [spanOf?] at h
  | cons m' marks ih =>
    simp only [spanOf?] at h
    split at h
    · rename_i hs
      simp only [Option.some.injEq, Prod.mk.injEq] at h
      obtain ⟨-, -, rfl⟩ := h
      exact EmphasisMark.length_of_span? hs
    · exact ih h

/-- Puts the stretches between these marks into tags, after the result `done` so far (last first).
Of several marks at one place the first that makes a stretch counts; `before` is the character
before the text. -/
def tagStretches (marks : List EmphasisMark) (before : Option Char) (done : List Char)
    (s : List Char) : List Char :=
  match s with
  | [] => done.reverse
  | c :: rest =>
    match h : spanOf? before (c :: rest) marks with
    | some (m, body, after) =>
      have := length_of_spanOf? h
      tagStretches marks m.text.getLast? ((m.tagged body).reverse ++ done) after
    | none => tagStretches marks (some c) (c :: done) rest
termination_by s.length
decreasing_by all_goals simp only [List.length_cons] at *; omega

def strongMarks : List EmphasisMark :=
  [⟨['*', '*'], "strong".toList, false⟩, ⟨['_', '_'], "strong".toList, false⟩]

def starMark : EmphasisMark := ⟨['*'], ['e', 'm'], false⟩

def lowLineMark : EmphasisMark := ⟨['_'], ['e', 'm'], true⟩

def emphasize (s : List Char) : List Char :=
  let strong := tagStretches strongMarks none [] s
  let stars := tagStretches [starMark] none [] strong
  tagStretches [lowLineMark] none [] stars

end SiteTemplates.Text
