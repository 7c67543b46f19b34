import SiteTemplates.Cache.Manager

/-!
# Calls on the caches

Everything that can be asked of the caches of a build, what it makes of them and what is replied.
A call that fails leaves what it has done until then.  `CacheManager.after` is what a sequence of
calls makes of caches, and `CacheManager.log` keeps each call with the caches that it was made on,
so that what is said of a call can look at them.
-/

namespace SiteTemplates

/-- The sizes of the caches, and how often a text was looked for. -/
structure CacheStatistics where
  contents : Nat
  templates : Nat
  renders : Nat
  hits : Nat
  misses : Nat

inductive Operation where
  | cacheRecord (key : String) (r : Record)
  | page (key : String)
  | post (key : String)
  | isContentValid (key : String) (threshold : Moment)
  | isContentStale (key : String) (threshold : Moment)
  | cacheTemplate (name : String) (t : Template)
  | template (name : String)
  | addDependency (name dependency : String)
  | isTemplateValid (name : String) (threshold : Moment)
  | countTemplates
  | cacheRendered (key value : String) (time : Option Moment)
  | getRendered (key : String) (threshold : Option Moment)
  | isRenderValid (key : String) (threshold : Moment)
  | invalidateContent (key : String)
  | invalidateTemplate (name : String)
  | clear
  | warmUp (records : List Record) (templates : List Template)
  | statistics
  | renderCached (s : RenderSettings) (name : String) (context : Value) (key : String)
      (threshold : Option Moment)

namespace Operation

/-- The key and the threshold of a lookup among the texts. -/
def lookup? : Operation → Option (String × Option Moment)
  | getRendered key threshold => some (key, threshold)
  | renderCached _ _ _ key threshold => some (key, threshold)
  | _ => none

/-- Whether the caches are emptied. -/
def isClear : Operation → Bool
  | clear => true
  | _ => false

end Operation

inductive Reply where
  | done
  | record (r? : Option Record)
  | template (t? : Option Template)
  | text (text? : Option String)
  | verdict (b : Bool)
  | count (n : Nat)
  | statistics (s : CacheStatistics)
  | failed (f : Failure)

namespace Reply

/-- The reply to a question that is answered by yes or no. -/
def ofVerdict : Except Failure Bool → Reply
  | .ok b => verdict b
  | .error f => failed f

def ofOutcome : Outcome → Reply
  | .ok t => text (some t)
  | .error f => failed f

def ofUnit : Except Failure Unit → Reply
  | .ok _ => done
  | .error f => failed f

end Reply

namespace CacheManager

/-- The sizes and counters of the caches. -/
def statistics (c : CacheManager) : CacheStatistics where
  contents := c.contents.size
  templates := c.templates.size
  renders := c.renders.size
  hits := c.renders.hits
  misses := c.renders.misses

def updated (c : CacheManager) : Except Failure CacheManager → CacheManager × Reply
  | .ok c' => (c', .done)
  | .error f => (c, .failed f)

/-- What an operation makes of the caches at a time, and the reply. -/
def respond (c : CacheManager) (now : Moment) : Operation → CacheManager × Reply
  | .cacheRecord key r => c.updated (c.cacheRecord key r)
  | .page key => (c, .record (c.page? key))
  | .post key => (c, .record (c.post? key))
  | .isContentValid key threshold => (c, .ofVerdict (c.contents.isValid key threshold))
  | .isContentStale key threshold => (c, .ofVerdict ((c.contents.isValid key threshold).map not))
  | .cacheTemplate name t => (c.cacheTemplate now name t, .done)
  | .template name => (c, .template (c.templates.get? name))
  | .addDependency name dependency => (c.addDependency name dependency, .done)
  | .isTemplateValid name threshold => (c, .ofVerdict (c.templates.isValid name threshold))
  | .countTemplates => (c, .count c.templates.size)
  | .cacheRendered key value time => c.updated (c.cacheRendered now key value time)
  | .getRendered key threshold =>
    match c.getRendered key threshold with
    | .ok (c', found) => (c', .text found)
    | .error f => (c, .failed f)
  | .isRenderValid key threshold => (c, .ofVerdict (c.renders.isValid key threshold))
  | .invalidateContent key => (c.invalidateContent key, .done)
  | .invalidateTemplate name => (c.invalidateTemplate name, .done)
  | .clear => (c.clear, .done)
  | .warmUp records templates =>
    let (c', outcome) := c.warmUp now records templates
    (c', .ofUnit outcome)
  | .statistics => (c, .statistics c.statistics)
  | .renderCached s name context key threshold =>
    let (c', outcome) := c.renderCached s now name context key threshold
    (c', .ofOutcome outcome)

end CacheManager

/-- An operation and the time at which it is asked for. -/
structure Call where
  now : Moment
  operation : Operation

/-- A call and the caches that it is made on. -/
structure Event where
  caches : CacheManager
  call : Call

/-- What comes of a call. -/
def Event.outcome (e : Event) : CacheManager × Reply :=
  e.caches.respond e.call.now e.call.operation

namespace CacheManager

/-- What calls make of the caches, one after the other. -/
def after (c : CacheManager) (calls : List Call) : CacheManager :=
  calls.foldl (fun c call => (Event.mk c call).outcome.1) c

/-- The calls of a sequence, each with the caches that it is made on. -/
def log (c : CacheManager) : List Call → List Event
  | [] => []
  | call :: calls => ⟨c, call⟩ :: log (Event.mk c call).outcome.1 calls

theorem after_concat (c : CacheManager) (calls : List Call) (call : Call) :
    c.after (calls ++ [call]) = (Event.mk (c.after calls) call).outcome.1 := by
  rw [after, List.foldl_append]
  rfl

theorem log_concat (c : CacheManager) (calls : List Call) (call : Call) :
    c.log (calls ++ [call]) = c.log calls ++ [⟨c.after calls, call⟩] := by
  induction calls generalizing c with
  | nil => rfl
  | cons first calls ih =>
    show ⟨c, first⟩ :: log _ (calls ++ [call]) = _
    rw [ih]
    rfl

end CacheManager

end SiteTemplates
