/-!
# Likeness of words

Two words are alike if the stretches that they have in common make up enough of both.  The longest
stretch counts first, the earliest one if there are several, and then what is before it in both
words and what is after it in both.
-/

namespace SiteTemplates.Text

def commonStart : List Char → List Char → Nat
  | a :: as, b :: bs => if a = b then commonStart as bs + 1 else 0
  | _, _ => 0

/-- A stretch of two texts: where it begins in each of them, and its length. -/
structure Stretch where
  first : Nat
  second : Nat
  length : Nat

/-- The longer one of two stretches, and the first one if they are equally long. -/
def Stretch.longer (s t : Stretch) : Stretch := if s.length < t.length then t else s

def longestStretch (a b : List Char) : Stretch :=
  (List.range a.length).foldl (fun s i =>
    (List.range b.length).foldl (fun s j =>
      s.longer ⟨i, j, commonStart (a.drop i) (b.drop j)⟩) s) ⟨0, 0, 0⟩

/-- How many characters two texts have in common, in stretches of which at most `fuel` are inside
one another. -/
def commonSize (fuel : Nat) (a b : List Char) : Nat :=
  match fuel with
  | 0 => 0
  | fuel + 1 =>
    let s := longestStretch a b
    if s.length = 0 then 0
    else
      s.length + commonSize fuel (a.take s.first) (b.take s.second) +
        commonSize fuel (a.drop (s.first + s.length)) (b.drop (s.second + s.length))

def areAlike (a b : String) : Bool :=
  3 * (a.length + b.length) ≤ 10 * commonSize a.length a.toList b.toList

end SiteTemplates.Text
