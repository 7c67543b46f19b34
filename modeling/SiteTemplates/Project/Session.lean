import SiteTemplates.Cache.Manager
import SiteTemplates.Project.Config
import SiteTemplates.Project.Data
import SiteTemplates.Project.Discovery

/-!
# Sessions

A session is what a project is rendered with: its configuration, its data, and caches that hold its
templates.  Of templates with one name the last one counts.
-/

namespace SiteTemplates

/-- A project that is ready to be rendered. -/
structure Session where
  config : Config
  data : List (Value × Value)
  caches : CacheManager
  settings : RenderSettings

namespace Session

def openedBy (read : DocumentReader) (root : Entry) (now : Moment) : Except Failure Session := do
  let config ← Config.loadBy read root
  let capacity ← config.integer "render_cache_capacity"
  let caches ← (CacheManager.ofCapacity capacity).mapError Failure.refused
  let templates ← loadTemplates (root.listing (← config.path "templates_dir"))
  let maxTemplateSize ← config.integer "max_template_size"
  let maxDepth ← config.integer "max_depth"
  let data ← loadDataBy read (root.listing (← config.path "data_dir"))
  return ⟨config, data, caches.cacheTemplates now templates, ⟨.builtin, maxTemplateSize, maxDepth⟩⟩

def render (s : Session) (now : Moment) (name : String) : Outcome :=
  (s.caches.renderer s.settings).renderTemplate now name (.map s.data)

/-- Renders the template of a name with the data of the project, for a key. -/
def renderFor (s : Session) (now : Moment) (name key : String) : Session × Outcome :=
  let (caches, outcome) := s.caches.renderCached s.settings now name (.map s.data) key none
  ({ s with caches }, outcome)

end Session

end SiteTemplates
