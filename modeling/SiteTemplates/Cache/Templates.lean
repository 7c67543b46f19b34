import SiteTemplates.Cache.Stamped
import SiteTemplates.Table
import SiteTemplates.Template.Named

/-!
# The template cache

Templates under names, with the graph of what they include.  The edges of a template are the
partials that its source names, found anew whenever it is written, and those that were added by
hand, which stay until the name is removed.

A name can be marked as invalid.  Its template stays where it is, and so do its edges, but it is not
found until it is written again.  Marking a name marks the templates that include it directly as
well, and no others.
-/

namespace SiteTemplates

/-- Templates under names, their edges and the marks of invalid names. -/
structure TemplateCache where
  entries : Table (Stamped Template)
  included : Table (List String)
  added : Table (List String)
  invalid : Table Unit

namespace TemplateCache

def empty : TemplateCache := ⟨Table.empty, Table.empty, Table.empty, Table.empty⟩

/-- Writes a template under a name, which takes the mark off that name. -/
def put (c : TemplateCache) (now : Moment) (name : String) (t : Template) : TemplateCache where
  entries := c.entries.insert name ⟨t, now.instant⟩
  included := c.included.insert name t.dependencies
  added := c.added
  invalid := c.invalid.erase name

def isInvalidated (c : TemplateCache) (name : String) : Bool := c.invalid.contains name

def entry? (c : TemplateCache) (name : String) : Option (Stamped Template) :=
  if c.isInvalidated name then none else c.entries.get? name

def get? (c : TemplateCache) (name : String) : Option Template := (c.entry? name).map Stamped.value

/-- Whether a name is found and was written no earlier than a threshold. -/
def isValid (c : TemplateCache) (name : String) (threshold : Moment) (zone : Zone := .utc) :
    Except Failure Bool :=
  Stamped.isCurrent (c.entry? name) threshold zone

def addDependency (c : TemplateCache) (name dependency : String) : TemplateCache :=
  let before := (c.added.get? name).getD []
  let after := if dependency ∈ before then before else before ++ [dependency]
  { c with added := c.added.insert name after }

def dependencies (c : TemplateCache) (name : String) : List String :=
  sortedNames ((c.included.get? name).getD [] ++ (c.added.get? name).getD [])

def dependents (c : TemplateCache) (name : String) : List String :=
  sortedNames ((c.included.keys ++ c.added.keys).filter (fun n => (c.dependencies n).contains name))

/-- What is marked together with a name: the name itself and what includes it directly. -/
def affected (c : TemplateCache) (name : String) : List String :=
  sortedNames (name :: c.dependents name)

def invalidate (c : TemplateCache) (name : String) : TemplateCache :=
  { c with invalid := (c.affected name).foldl (fun t n => t.insert n ()) c.invalid }

def remove (c : TemplateCache) (name : String) : TemplateCache where
  entries := c.entries.erase name
  included := c.included.erase name
  added := c.added.erase name
  invalid := c.invalid.erase name

def names (c : TemplateCache) : List String := sortedNames c.entries.keys

def size (c : TemplateCache) : Nat := c.entries.size

end TemplateCache

end SiteTemplates
