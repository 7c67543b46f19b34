import SiteTemplates.Cache.Manager

/-!
# Runs over the caches

What is done with the caches of a build, one command after the other, while a clock shows the time.
A command that fails has the effect that it had until then; what it reports is left aside here.
-/

namespace SiteTemplates

/-- What is done with the caches of a build. -/
inductive Command where
  | cacheTemplate (name : String) (t : Template)
  | warmUp (records : List Record) (templates : List Template)
  | invalidateTemplate (name : String)
  | invalidateContent (key : String)
  | addDependency (name dependency : String)
  | cacheRecord (key : String) (r : Record)
  | getRendered (key : String) (threshold : Option Moment)
  | clear
  | setClock (now : Moment)
  | renderCached (name : String) (context : Value) (key : String) (threshold : Option Moment)

/-- Caches and the time that the clock shows. -/
structure Clocked where
  caches : CacheManager
  now : Moment

namespace Clocked

/-- What a command makes of caches and clock. -/
def step (s : RenderSettings) (w : Clocked) : Command → Clocked
  | .cacheTemplate name t => { w with caches := w.caches.cacheTemplate w.now name t }
  | .warmUp records templates =>
    { w with caches := (w.caches.warmUp w.now records templates).1 }
  | .invalidateTemplate name => { w with caches := w.caches.invalidateTemplate name }
  | .invalidateContent key => { w with caches := w.caches.invalidateContent key }
  | .addDependency name dependency =>
    { w with caches := w.caches.addDependency name dependency }
  | .cacheRecord key r =>
    match w.caches.cacheRecord key r with
    | .ok caches => { w with caches }
    | .error _ => w
  | .getRendered key threshold =>
    match w.caches.getRendered key threshold with
    | .ok (caches, _) => { w with caches }
    | .error _ => w
  | .clear => { w with caches := w.caches.clear }
  | .setClock now => { w with now }
  | .renderCached name context key threshold =>
    { w with caches := (w.caches.renderCached s w.now name context key threshold).1 }

end Clocked

end SiteTemplates
