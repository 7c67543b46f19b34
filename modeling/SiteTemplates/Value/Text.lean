import SiteTemplates.Calendar.Iso
import SiteTemplates.Number.Integer
import SiteTemplates.Number.Shortest
import SiteTemplates.Text.Quoted
import SiteTemplates.Text.Split
import SiteTemplates.Value.Basic

/-!
# The text of a value

`Value.spelled?` spells a value out so that its kind can be seen: text in quotes, lists and maps in
brackets with their items spelled out, dates and records by their fields.  `Value.plain?` leaves
text as it is and writes dates in the standard notation; it differs from spelling out at the
outermost level only.  `Value.shown?` is what a template shows.  A value with an integer of too many
digits has no text.
-/

namespace SiteTemplates

open Text

/-! ### Dates and moments by their fields -/

def called (word : String) (arguments : List (List Char)) : List Char :=
  word.toList ++ '(' :: joined [',', ' '] arguments ++ [')']

def named (word : String) (value : List Char) : List Char := word.toList ++ '=' :: value

def digitsOf (n : Nat) : List Char := Nat.toDigits 10 n

namespace Date

def spelled (d : Date) : List Char :=
  called "datetime.date" [digitsOf d.year, digitsOf d.month, digitsOf d.day]

end Date

namespace Offset

/-- A span of time as days, seconds and microseconds, of which only the days can be negative. -/
def spelledSpan (micros : Int) : List Char :=
  let days := micros / microsPerDay
  let rest := (micros % microsPerDay).toNat
  let field (word : String) (n : Int) : List (List Char) :=
    if n = 0 then [] else [named word (toString n).toList]
  let fields := field "days" days ++ field "seconds" (rest / 1000000 : Nat) ++
    field "microseconds" (rest % 1000000 : Nat)
  called "datetime.timedelta" (if fields.isEmpty then [['0']] else fields)

def spelled (o : Offset) : List Char :=
  match o.name with
  | some name => called "datetime.timezone" [spelledSpan o.micros, quoted name.toList]
  | none =>
    if o.micros = 0 then "datetime.timezone.utc".toList
    else called "datetime.timezone" [spelledSpan o.micros]

end Offset

namespace Moment

/-- The moment by its fields.  Seconds and microseconds are left out if nothing but zeros
follows. -/
def spelled (m : Moment) : List Char :=
  let t := m.time
  let seconds := if t.second = 0 ∧ t.micro = 0 then [] else [digitsOf t.second]
  let micros := if t.micro = 0 then [] else [digitsOf t.micro]
  let zone := (m.offset.map (fun o => named "tzinfo" o.spelled)).toList
  called "datetime.datetime"
    ([digitsOf m.date.year, digitsOf m.date.month, digitsOf m.date.day, digitsOf t.hour,
      digitsOf t.minute] ++ seconds ++ micros ++ zone)

end Moment

/-! ### Values -/

def bracketed (opening closing : Char) (items : List (List Char)) : List Char :=
  opening :: joined [',', ' '] items ++ [closing]

def spelledTexts (texts : List String) : List Char :=
  bracketed '[' ']' (texts.map (fun s => quoted s.toList))

/-- A record by its fields, the front matter being spelled out already. -/
def Header.spelled (h : Header) (frontMatter : List Char) : List Char :=
  let fields :=
    [named "filename" (quoted h.filename.toList), named "slug" (quoted h.slug.toList),
      named "front_matter" frontMatter, named "raw_content" (quoted h.rawContent.toList),
      named "rendered_content" (quoted h.renderedContent.toList),
      named "last_modified" h.lastModified.spelled]
  match h.publication with
  | none => called "Page" fields
  | some p =>
    called "Post" (fields ++ [named "published_at" p.publishedAt.spelled,
      named "categories" (spelledTexts p.categories), named "tags" (spelledTexts p.tags)])

namespace Value

def spelledTuple (items : List (List Char)) : List Char :=
  match items with
  | [one] => '(' :: one ++ [',', ')']
  | _ => bracketed '(' ')' items

def spelledSet (items : List (List Char)) : List Char :=
  if items.isEmpty then "set()".toList else bracketed '{' '}' items

mutual

def spelled? : Value → Option (List Char)
  | null => some "None".toList
  | bool b => some (if b then "True".toList else "False".toList)
  | int n => (writeInteger? n).map String.toList
  | real x => some x.written.toList
  | text s => some (quoted s.toList)
  | date d => some d.spelled
  | moment m => some m.spelled
  | bytes bs => some (quotedBytes bs)
  | list items => (spelledAll? items).map (bracketed '[' ']')
  | tuple items => (spelledAll? items).map spelledTuple
  | set items => (spelledAll? items).map spelledSet
  | map entries => (spelledEntries? entries).map (bracketed '{' '}')
  | record h frontMatter =>
    (spelledEntries? frontMatter).map (fun entries => h.spelled (bracketed '{' '}' entries))
  | template name source =>
    some (called "Template"
      [named "name" (quoted name.toList), named "source" (quoted source.toList)])

def spelledAll? : List Value → Option (List (List Char))
  | [] => some []
  | v :: rest =>
    match spelled? v, spelledAll? rest with
    | some s, some ss => some (s :: ss)
    | _, _ => none

def spelledEntries? : List (Value × Value) → Option (List (List Char))
  | [] => some []
  | (k, v) :: rest =>
    match spelled? k, spelled? v, spelledEntries? rest with
    | some key, some value, some ss => some ((key ++ ':' :: ' ' :: value) :: ss)
    | _, _, _ => none

end

def plain? : Value → Option (List Char)
  | text s => some s.toList
  | date d => some d.written
  | moment m => some (m.writtenWith ' ')
  | v => v.spelled?

def shown? : Value → Option (List Char)
  | null => some []
  | bool b => some (if b then "true".toList else "false".toList)
  | moment m => some m.written
  | v => v.plain?

end Value

end SiteTemplates
