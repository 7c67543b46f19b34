import SiteTemplates.Cache.Stamped
import SiteTemplates.Content.Record
import SiteTemplates.Table

/-!
# The content cache

Pages and posts under keys, each as old as its file unless another time is given.
-/

namespace SiteTemplates

structure ContentCache where
  entries : Table (Stamped Record)

namespace ContentCache

def empty : ContentCache := ⟨Table.empty⟩

def insert (c : ContentCache) (key : String) (r : Record) (stamp : Int) : ContentCache :=
  ⟨c.entries.insert key ⟨r, stamp⟩⟩

/-- Writes a record under a key, as old as its file unless a time is given. -/
def put (c : ContentCache) (key : String) (r : Record) (time : Option Moment)
    (zone : Zone := .utc) : Except Failure ContentCache :=
  (stampOf (time.getD r.header.lastModified) zone).map (c.insert key r)

def get? (c : ContentCache) (key : String) : Option Record := (c.entries.get? key).map Stamped.value

/-- Whether there is a record under a key that is not older than a threshold. -/
def isValid (c : ContentCache) (key : String) (threshold : Moment) (zone : Zone := .utc) :
    Except Failure Bool :=
  Stamped.isCurrent (c.entries.get? key) threshold zone

def remove (c : ContentCache) (key : String) : ContentCache := ⟨c.entries.erase key⟩

def size (c : ContentCache) : Nat := c.entries.size

end ContentCache

end SiteTemplates
