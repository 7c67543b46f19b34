import SiteTemplates.Calendar.Moment
import SiteTemplates.Number.Binary

/-!
# Values

What a template is rendered with: plain values, lists and maps, and besides them the things that are
folded into those before a rendering begins, such as sets, tuples and content records.

A map is a list of entries in the order in which their keys came.  Any value can be a key; a key
that is equal to one that is there already replaces that entry's value and keeps its place.  Numbers
are equal across their kinds, truth values counting as one and zero, and moments on a known clock
are equal if they are the same instant.
-/

namespace SiteTemplates

/-- What a post has besides the fields of a page. -/
structure Publication where
  publishedAt : Moment
  categories : List String
  tags : List String
deriving DecidableEq

/-- The fields of a content record apart from its front matter. -/
structure Header where
  filename : String
  slug : String
  rawContent : String
  renderedContent : String
  lastModified : Moment
  publication : Option Publication
deriving DecidableEq

inductive Value where
  | null
  | bool (b : Bool)
  | int (n : Int)
  | real (x : Binary)
  | text (s : String)
  | date (d : Date)
  | moment (m : Moment)
  | bytes (bs : List UInt8)
  | list (items : List Value)
  | tuple (items : List Value)
  | set (items : List Value)
  | map (entries : List (Value × Value))
  | record (header : Header) (frontMatter : List (Value × Value))
  | template (name source : String)

namespace Value

/-! ### Keys -/

def integer? : Value → Option Int
  | bool b => some (if b then 1 else 0)
  | int n => some n
  | real x => x.integer?
  | _ => none

def sameMoment (a b : Moment) : Bool :=
  if a.offset.isSome && b.offset.isSome then a.instant == b.instant else a == b

mutual

/-- Whether two values are equal as keys.  What cannot be a key is equal to nothing. -/
def same : Value → Value → Bool
  | null, null => true
  | text a, text b => a == b
  | date a, date b => a == b
  | moment a, moment b => sameMoment a b
  | bytes a, bytes b => a == b
  | tuple a, tuple b => sameAll a b
  | template n s, template n' s' => n == n' && s == s'
  | real a, real b => a.same b
  | a, b =>
    match a.integer?, b.integer? with
    | some m, some n => m == n
    | _, _ => false

/-- Whether the items of two tuples are equal, each to its counterpart. -/
def sameAll : List Value → List Value → Bool
  | [], [] => true
  | a :: as, b :: bs => same a b && sameAll as bs
  | _, _ => false

end

def put (key value : Value) : List (Value × Value) → List (Value × Value)
  | [] => [(key, value)]
  | (k, v) :: rest => if k.same key then (k, value) :: rest else (k, v) :: put key value rest

def overlay (entries new : List (Value × Value)) : List (Value × Value) :=
  new.foldl (fun es e => put e.1 e.2 es) entries

def entriesOf (given : List (Value × Value)) : List (Value × Value) := overlay [] given

def itemsOf (given : List Value) : List Value :=
  (entriesOf (given.map (fun v => (v, null)))).map Prod.fst

def isText (s : String) : Value → Bool
  | text t => t == s
  | _ => false

def lookup? (key : String) (entries : List (Value × Value)) : Option Value :=
  (entries.find? (fun e => e.1.isText key)).map Prod.snd

end Value

end SiteTemplates
