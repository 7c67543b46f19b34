import SiteTemplates.Cache.Stamped
import SiteTemplates.Failure
import SiteTemplates.Number.Binary
import SiteTemplates.Table
import SiteTemplates.Text.Glob

/-!
# The render cache

Rendered text under keys, in a limited number.  A new key that finds the cache full drives out the
oldest entry, and of several that are equally old the one whose key came first.  Looking a key up
counts as a hit or as a miss; an entry that is older than the threshold of the lookup is a miss, and
stays.
-/

namespace SiteTemplates

/-- Rendered text under keys, and how often it was found. -/
structure RenderCache where
  capacity : Nat
  entries : Table (Stamped String)
  hits : Nat
  misses : Nat
  capacity_pos : 1 ≤ capacity

namespace RenderCache

def defaultCapacity : Int := 1000

def ofCapacity (capacity : Int) : Except Refusal RenderCache :=
  if h : 1 ≤ capacity.toNat then .ok ⟨capacity.toNat, Table.empty, 0, 0, h⟩
  else .error .noCapacity

/-- The older one of two entries, and the first one if they are equally old. -/
def older (a b : String × Stamped String) : String × Stamped String :=
  if b.2.stamp < a.2.stamp then b else a

def oldest? : List (String × Stamped String) → Option String
  | [] => none
  | e :: rest => some (rest.foldl older e).1

def makeRoom (c : RenderCache) (key : String) : RenderCache :=
  if c.entries.contains key || c.entries.size < c.capacity then c
  else
    match oldest? c.entries.entries with
    | some k => { c with entries := c.entries.erase k }
    | none => c

def insert (c : RenderCache) (key value : String) (stamp : Int) : RenderCache :=
  let c := c.makeRoom key
  { c with entries := c.entries.insert key ⟨value, stamp⟩ }

/-- Writes a text under a key, as old as the present unless a time is given. -/
def put (c : RenderCache) (now : Moment) (key value : String) (time : Option Moment)
    (zone : Zone := .utc) : Except Failure RenderCache :=
  (stampOr now time zone).map (c.insert key value)

/-- The text under a key, unless it is older than a threshold. -/
def peek (c : RenderCache) (key : String) (threshold : Option Moment) (zone : Zone := .utc) :
    Except Failure (Option String) :=
  Stamped.current (c.entries.get? key) threshold zone

def count (c : RenderCache) (found : Option String) : RenderCache :=
  if found.isSome then { c with hits := c.hits + 1 } else { c with misses := c.misses + 1 }

def get (c : RenderCache) (key : String) (threshold : Option Moment) (zone : Zone := .utc) :
    Except Failure (RenderCache × Option String) :=
  (c.peek key threshold zone).map (fun found => (c.count found, found))

def contains (c : RenderCache) (key : String) : Bool := c.entries.contains key

/-- Whether there is a text under a key that is not older than a threshold. -/
def isValid (c : RenderCache) (key : String) (threshold : Moment) (zone : Zone := .utc) :
    Except Failure Bool :=
  Stamped.isCurrent (c.entries.get? key) threshold zone

def keyMatches (pattern key : String) : Bool := Text.globMatches pattern.toList key.toList

def invalidate (c : RenderCache) (pattern : String) : RenderCache :=
  { c with entries := c.entries.filter (fun k _ => !keyMatches pattern k) }

def countMatches (c : RenderCache) (pattern : String) : Nat :=
  c.entries.keys.countP (keyMatches pattern)

def remove (c : RenderCache) (key : String) : RenderCache :=
  { c with entries := c.entries.erase key }

def clear (c : RenderCache) : RenderCache :=
  { c with entries := Table.empty, hits := 0, misses := 0 }

def size (c : RenderCache) : Nat := c.entries.size

def hitRatio (c : RenderCache) : Binary :=
  if c.hits + c.misses = 0 then .finite false 0 0 else .ofRatio false c.hits (c.hits + c.misses)

end RenderCache

end SiteTemplates
