import SiteTemplates.Cache.Content
import SiteTemplates.Cache.Renders
import SiteTemplates.Cache.Templates
import SiteTemplates.Render.Renderer

/-!
# The caches of a build

The three caches together.  Templates are rendered by what the template cache finds, and rendered
text is kept under keys that are made of a kind and a slug.  `CacheManager.renderCached` uses a text
again if it is there and fresh, and renders and keeps it otherwise.

A content record that is invalidated takes with it every text whose key holds the record's key; a
template that is invalidated takes every text with it, for keys do not tell which templates a text
was made of.
-/

namespace SiteTemplates

structure CacheManager where
  contents : ContentCache
  templates : TemplateCache
  renders : RenderCache

namespace CacheManager

def ofCapacity (capacity : Int) : Except Refusal CacheManager :=
  (RenderCache.ofCapacity capacity).map (fun renders => ⟨.empty, .empty, renders⟩)

def pageKey (slug : String) : String := "page:" ++ slug

def postKey (slug : String) : String := "post:" ++ slug

/-! ### Content -/

def cacheRecord (c : CacheManager) (key : String) (r : Record) (zone : Zone := .utc) :
    Except Failure CacheManager :=
  (c.contents.put key r none zone).map (fun contents => { c with contents })

def page? (c : CacheManager) (key : String) : Option Record :=
  (c.contents.get? key).filter (fun r => r.header.publication.isNone)

def post? (c : CacheManager) (key : String) : Option Record :=
  (c.contents.get? key).filter (fun r => r.header.publication.isSome)

/-! ### Templates -/

def cacheTemplate (c : CacheManager) (now : Moment) (name : String) (t : Template) : CacheManager :=
  { c with templates := c.templates.put now name t }

def addDependency (c : CacheManager) (name dependency : String) : CacheManager :=
  { c with templates := c.templates.addDependency name dependency }

def removeTemplate (c : CacheManager) (name : String) : CacheManager :=
  { c with templates := c.templates.remove name }

/-! ### Rendered text -/

def cacheRendered (c : CacheManager) (now : Moment) (key value : String) (time : Option Moment)
    (zone : Zone := .utc) : Except Failure CacheManager :=
  (c.renders.put now key value time zone).map (fun renders => { c with renders })

def getRendered (c : CacheManager) (key : String) (threshold : Option Moment)
    (zone : Zone := .utc) : Except Failure (CacheManager × Option String) :=
  (c.renders.get key threshold zone).map (fun (renders, found) => ({ c with renders }, found))

/-! ### Invalidation -/

/-- Drops a record and the texts whose keys hold its key. -/
def invalidateContent (c : CacheManager) (key : String) : CacheManager :=
  { c with
    contents := c.contents.remove key
    renders := c.renders.invalidate ("*" ++ key ++ "*") }

/-- Marks a template and what includes it directly as invalid, and drops every text. -/
def invalidateTemplate (c : CacheManager) (name : String) : CacheManager :=
  { c with
    templates := c.templates.invalidate name
    renders := c.renders.invalidate "*" }

def clear (c : CacheManager) : CacheManager := ⟨.empty, .empty, c.renders.clear⟩

/-- Keeps records under their slugs, as far as the first one that cannot be kept. -/
def cacheRecords (records : List Record) (c : CacheManager) (zone : Zone := .utc) :
    CacheManager × Except Failure Unit :=
  match records with
  | [] => (c, .ok ())
  | r :: rest =>
    match c.cacheRecord r.header.slug r zone with
    | .ok c => cacheRecords rest c zone
    | .error e => (c, .error e)

def cacheTemplates (c : CacheManager) (now : Moment) (templates : List Template) : CacheManager :=
  templates.foldl (fun c t => c.cacheTemplate now t.name t) c

/-- Keeps records under their slugs and then templates under their names. -/
def warmUp (c : CacheManager) (now : Moment) (records : List Record) (templates : List Template)
    (zone : Zone := .utc) : CacheManager × Except Failure Unit :=
  match cacheRecords records c zone with
  | (c, .ok _) => (c.cacheTemplates now templates, .ok ())
  | (c, .error e) => (c, .error e)

/-! ### Rendering -/

def source? (c : CacheManager) (name : String) : Option String :=
  (c.templates.get? name).map Template.source

def renderer (c : CacheManager) (s : RenderSettings) : Renderer := { s with source? := c.source? }

/-- The text for a key: the one that is kept, if it is fresh, or else the template of a name,
rendered and kept.  A fault of a template names the key. -/
def renderCached (c : CacheManager) (s : RenderSettings) (now : Moment) (name : String)
    (context : Value) (key : String) (threshold : Option Moment) (zone : Zone := .utc) :
    CacheManager × Outcome :=
  match c.getRendered key threshold zone with
  | .error e => (c, .error e)
  | .ok (c, some text) => (c, .ok text)
  | .ok (c, none) =>
    match (c.renderer s).renderTemplate now name context with
    | .ok text => ({ c with renders := c.renders.insert key text now.instant }, .ok text)
    | .error (.template e) => (c, .error (.render key e))
    | .error e => (c, .error e)

end CacheManager

end SiteTemplates
