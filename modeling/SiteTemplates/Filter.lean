import SiteTemplates.Calendar.Pattern
import SiteTemplates.Failure
import SiteTemplates.Table
import SiteTemplates.Text.Emphasis
import SiteTemplates.Text.Excerpt
import SiteTemplates.Text.Slug
import SiteTemplates.Text.Tag
import SiteTemplates.Value.Text

/-!
# Filters

A filter makes one value of another, with literal texts as arguments.  `FilterRegistry` holds
filters under their names; a name that it does not hold passes the value on as it is.  Except for
`date`, the filters of `FilterRegistry.builtin` work on the text that a template shows for the
value.
-/

namespace SiteTemplates

open Text

abbrev Filter := Value → List String → Except Failure Value

namespace Filter

def shownText (v : Value) : Except Failure (List Char) :=
  match v.shown? with
  | some s => .ok s
  | none => .error .badNumber

/-- The filter that works on the shown text and leaves its arguments aside. -/
def onText (f : List Char → List Char) : Filter := fun v _ => do
  let s ← shownText v
  return .text (String.ofList (f s))

def firstArgument? (arguments : List String) : Option String :=
  arguments.head?.filter (fun a => !a.isEmpty)

def integerArgument (filter : String) (default : Int) (arguments : List String) :
    Except Failure Int :=
  match firstArgument? arguments with
  | none => .ok default
  | some a =>
    match readInteger? a.toList with
    | some n => .ok n
    | none => .error (.template ⟨.notInteger filter a, none⟩)

def defaultLength : Int := 150

/-- Cuts the shown text to a length; the name is for the report of a bad argument. -/
def cut (name : String) : Filter := fun v arguments => do
  let s ← shownText v
  let length ← integerArgument name defaultLength arguments
  return .text (String.ofList (truncate s length))

def defaultPattern : String := "%Y-%m-%d"

/-- The moment that a value gives: a moment, the start of a date, or text in the standard
notation. -/
def moment? : Value → Option Moment
  | .moment m => some m
  | .date d => some (.ofDate d)
  | .text s => Moment.ofIso? s.toList
  | _ => none

def datePattern (arguments : List String) : List Char :=
  ((firstArgument? arguments).getD defaultPattern).toList

/-- Writes a moment by a pattern.  What gives no moment stays as it is. -/
def date : Filter := fun v arguments =>
  match moment? v with
  | some m => .ok (.text (String.ofList (m.format (datePattern arguments))))
  | none => .ok v

end Filter

/-- Filters under their names. -/
abbrev FilterRegistry := Table Filter

namespace FilterRegistry

/-- Registers a filter under a name, which loses the blanks around it and must not be empty. -/
def register (r : FilterRegistry) (name : String) (f : Filter) : Except Refusal FilterRegistry :=
  if allBlank name.toList then .error .emptyFilterName else .ok (r.insert (trimmed name) f)

def builtins : List (String × Filter) :=
  [("date", Filter.date), ("slugify", Filter.onText slug), ("truncate", Filter.cut "truncate"),
    ("excerpt", Filter.cut "excerpt"), ("uppercase", Filter.onText upper),
    ("lowercase", Filter.onText lower), ("capitalize", Filter.onText capitalize),
    ("markdown", Filter.onText emphasize), ("strip_html", Filter.onText stripTags)]

def builtin : FilterRegistry := builtins.foldl (fun r e => r.insert e.1 e.2) Table.empty

def apply (r : FilterRegistry) (name : String) (v : Value) (arguments : List String) :
    Except Failure Value :=
  match r.get? name with
  | some f => f v arguments
  | none => .ok v

end FilterRegistry

end SiteTemplates
