import SiteTemplates.Text.CaseTable

/-!
# Letter case

Lower case, upper case and the capital at the start of a word.  A letter may become several.  The
capital sigma is the one letter whose lower case hangs on its place: at the end of a word, that is
after a letter with case and not before one, it becomes the final sigma.
-/

namespace SiteTemplates.Text

def moved (n : Nat) : List CaseRun → Nat
  | [] => n
  | r :: rest =>
    if n < r.first then n
    else if n ≤ r.last then
      if (n - r.first) % r.stride = 0 then ((n : Int) + r.distance).toNat else n
    else moved n rest

/-- The image of a character under the runs and the specials, which go first. -/
def mapped (runs : List CaseRun) (specials : List (Nat × List Nat)) (c : Char) : List Char :=
  match specials.lookup c.toNat with
  | some ns => ns.map Char.ofNat
  | none => [Char.ofNat (moved c.toNat runs)]

def upperOf (c : Char) : List Char := mapped upperRuns upperSpecials c

def capitalOf (c : Char) : List Char :=
  match capitalSpecials.lookup c.toNat with
  | some ns => ns.map Char.ofNat
  | none => upperOf c

/-- The upper case of a letter as one letter.  Where it takes several, the capital stands in for it,
and where that takes several too, the letter itself. -/
def singleUpper (c : Char) : Char :=
  match upperOf c, capitalOf c with
  | [u], _ => u
  | _, [u] => u
  | _, _ => c

/-- Whether the first character that counts, marks being passed over, is a letter with case. -/
def meetsCased : List Char → Bool
  | [] => false
  | c :: rest =>
    if inRanges c.toNat caselessRanges then meetsCased rest else inRanges c.toNat casedRanges

/-- The lower case of a letter between the text before it (last first) and the text after it. -/
def lowerOf (before : List Char) (c : Char) (after : List Char) : List Char :=
  if c = 'Σ' then (if meetsCased before && !meetsCased after then ['ς'] else ['σ'])
  else mapped lowerRuns lowerSpecials c

/-- The lower case of a text that follows `before` (last first), after the result `done` so far
(last first). -/
def lowerFrom (before done : List Char) : List Char → List Char
  | [] => done.reverse
  | c :: rest => lowerFrom (c :: before) ((lowerOf before c rest).reverse ++ done) rest

def lower (s : List Char) : List Char := lowerFrom [] [] s

def upper (s : List Char) : List Char := s.flatMap upperOf

/-- The text with its first letter as a capital and the others in lower case. -/
def capitalize : List Char → List Char
  | [] => []
  | c :: rest => lowerFrom [c] (capitalOf c).reverse rest

end SiteTemplates.Text
