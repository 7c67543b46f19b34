import SiteTemplates.Failure
import SiteTemplates.Value.Text

/-!
# The canonical text of a value

`Value.canonical` writes a value in plain characters so that the order in which the keys of maps
came leaves no trace: the entries of every map are sorted by their keys.  Keys are texts or numbers
and are sorted before they are written; keys that cannot be compared have no order, and other keys
cannot be written.  Text stands in double quotes, with escapes for all that is not plain, in units
of sixteen bits.  Tuples are written as lists; what is neither plain, nor a list or a map, is
written as the text that it has by itself.
-/

namespace SiteTemplates

open Text

/-! ### Text and numbers -/

def unitEscape (n : Nat) : List Char := '\\' :: 'u' :: hexadecimal 4 n

def canonicalChar (c : Char) : List Char :=
  let n := c.toNat
  if c = '"' ∨ c = '\\' then ['\\', c]
  else if c = '\n' then ['\\', 'n']
  else if c = '\r' then ['\\', 'r']
  else if c = '\t' then ['\\', 't']
  else if n = 12 then ['\\', 'f']
  else if n = 8 then ['\\', 'b']
  else if 32 ≤ n ∧ n ≤ 126 then [c]
  else if n < 0x10000 then unitEscape n
  else
    unitEscape (0xD800 + (n - 0x10000) / 0x400) ++ unitEscape (0xDC00 + (n - 0x10000) % 0x400)

def canonicalText (s : List Char) : List Char := '"' :: s.flatMap canonicalChar ++ ['"']

def canonicalReal (x : Binary) : List Char :=
  match x with
  | .notNumber => "NaN".toList
  | .infinite negative => (if negative then "-Infinity" else "Infinity").toList
  | _ => x.written.toList

def canonicalInt (n : Int) : Except Failure (List Char) :=
  match writeInteger? n with
  | some s => .ok s.toList
  | none => .error .badNumber

namespace Value

/-! ### Keys -/

/-- A number as a multiple of `2 ^ -1074`, the smallest unit of floating point.  The infinite ones
lie beyond all others, and what is no number lies nowhere among them. -/
inductive Scaled where
  | bottom
  | units (n : Int)
  | top
  | nowhere

def Scaled.isBelow : Scaled → Scaled → Bool
  | units m, units n => m < n
  | bottom, units _ | bottom, top | units _, top => true
  | _, _ => false

def scaled? : Value → Option Scaled
  | bool b => some (.units (if b then twoTo 1074 else 0))
  | int n => some (.units (n * twoTo 1074))
  | real (.finite negative significand exponent) =>
    let n : Int := (significand * twoTo exponent : Nat)
    some (.units (if negative then -n else n))
  | real (.infinite negative) => some (if negative then .bottom else .top)
  | real .notNumber => some .nowhere
  | _ => none

def isTextKey : Value → Bool
  | text _ => true
  | _ => false

/-- Whether a key comes no later than another of the same kind. -/
def keyLe (a b : Value) : Bool :=
  match a, b with
  | text s, text t => decide (s ≤ t)
  | _, _ =>
    match a.scaled?, b.scaled? with
    | some x, some y => !y.isBelow x
    | _, _ => true

/-- The entries in the order of their keys, which must be all texts or all numbers if there are
several. -/
def sortedByKey {α : Type} (entries : List (Value × α)) : Except Failure (List (Value × α)) :=
  if entries.length ≤ 1 ∨ entries.all (fun e => e.1.isTextKey) = true ∨
      entries.all (fun e => e.1.scaled?.isSome) = true then
    .ok (entries.mergeSort (fun a b => keyLe a.1 b.1))
  else .error .wrongKind

def keyText : Value → Except Failure (List Char)
  | text s => .ok s.toList
  | real x => .ok (canonicalReal x)
  | bool b => .ok (if b then "true".toList else "false".toList)
  | null => .ok "null".toList
  | int n => canonicalInt n
  | _ => .error .wrongKind

/-! ### Values -/

/-- Items in brackets; the first failure among them counts. -/
def listed (opening closing : Char) (items : List (Except Failure (List Char))) :
    Except Failure (List Char) := do
  let items ← items.mapM id
  return bracketed opening closing items

/-- The entries of a map, whose values are written already, in braces. -/
def mapped (entries : List (Value × Except Failure (List Char))) : Except Failure (List Char) := do
  let sorted ← sortedByKey entries
  listed '{' '}' (sorted.map (fun e => do
    let key ← keyText e.1
    let value ← e.2
    return canonicalText key ++ ':' :: ' ' :: value))

def canonicalPlain (v : Value) : Except Failure (List Char) :=
  match v.plain? with
  | some s => .ok (canonicalText s)
  | none => .error .badNumber

mutual

def canonical : Value → Except Failure (List Char)
  | null => .ok "null".toList
  | bool b => .ok (if b then "true".toList else "false".toList)
  | int n => canonicalInt n
  | real x => .ok (canonicalReal x)
  | text s => .ok (canonicalText s.toList)
  | list items => listed '[' ']' (canonicalAll items)
  | tuple items => listed '[' ']' (canonicalAll items)
  | map entries => mapped (canonicalValues entries)
  | v => canonicalPlain v

def canonicalAll : List Value → List (Except Failure (List Char))
  | [] => []
  | v :: rest => canonical v :: canonicalAll rest

def canonicalValues : List (Value × Value) → List (Value × Except Failure (List Char))
  | [] => []
  | (k, v) :: rest => (k, canonical v) :: canonicalValues rest

end

end Value

end SiteTemplates
