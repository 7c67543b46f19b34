import SiteTemplates.Table
import SiteTemplates.Template.Named

/-!
# The template store

A store keeps templates by name and refuses sources beyond its limit.
-/

namespace SiteTemplates

def defaultMaxTemplateSize : Int := 1024 * 1024

structure TemplateStore where
  templates : Table Template
  maxTemplateSize : Int

namespace TemplateStore

def empty (maxTemplateSize : Int) : TemplateStore := ⟨Table.empty, maxTemplateSize⟩

def register (s : TemplateStore) (t : Template) : Except TemplateError TemplateStore :=
  if s.maxTemplateSize < t.source.length then
    .error ⟨.oversized t.source.length s.maxTemplateSize, some t.name⟩
  else .ok { s with templates := s.templates.insert t.name t }

def remove (s : TemplateStore) (name : String) : TemplateStore :=
  { s with templates := s.templates.erase name }

/-- The names of the partials that the template of a name refers to. -/
def dependencies (s : TemplateStore) (name : String) : List String :=
  match s.templates.get? name with
  | some t => t.dependencies
  | none => []

def names (s : TemplateStore) : List String := sortedNames s.templates.keys

def source? (s : TemplateStore) (name : String) : Option String :=
  (s.templates.get? name).map Template.source

end TemplateStore

end SiteTemplates
