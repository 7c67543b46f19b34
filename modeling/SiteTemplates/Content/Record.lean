import SiteTemplates.Calendar.Iso
import SiteTemplates.Failure
import SiteTemplates.Text.Excerpt
import SiteTemplates.Text.Slug
import SiteTemplates.Text.Split
import SiteTemplates.Text.Title
import SiteTemplates.Value.Basic

/-!
# Content records

A page is a source file with its front matter; a post is a page with a time of publication,
categories and tags.  `Record.context` is the map that a template sees: the front matter, and over
it the fields of the record.
-/

namespace SiteTemplates

open Text

structure Record where
  header : Header
  frontMatter : List (Value × Value)

/-- What a post is made of besides a page.  It is published when it was last changed, unless
something else is given. -/
structure PostFields where
  publishedAt : Option Moment := none
  categories : List String := []
  tags : List String := []

/-- What a record is made of.  An empty slug is made from the name of the file. -/
structure RecordFields where
  filename : String
  slug : String := ""
  frontMatter : List (Value × Value) := []
  rawContent : String := ""
  renderedContent : String := ""
  lastModified : Option Moment := none
  post : Option PostFields := none

namespace Record

def beforeLastPoint (s : List Char) : List Char :=
  match s.reverse.dropWhile (· != '.') with
  | _ :: before => before.reverse
  | [] => s

def slugOf (filename : String) : String :=
  String.ofList (Text.slug (beforeLastPoint filename.toList))

/-- Makes a record, which needs a file name and a time of change. -/
def ofFields (f : RecordFields) : Except Refusal Record :=
  if allBlank f.filename.toList then .error .emptyFilename
  else
    match f.lastModified with
    | none => .error .noLastModified
    | some lastModified =>
      let publication := f.post.map (fun (p : PostFields) =>
        (⟨p.publishedAt.getD lastModified, p.categories, p.tags⟩ : Publication))
      let slug := if f.slug.isEmpty then slugOf f.filename else f.slug
      .ok ⟨⟨f.filename, slug, f.rawContent, f.renderedContent, lastModified, publication⟩,
        f.frontMatter⟩

def toValue (r : Record) : Value := .record r.header r.frontMatter

/-! ### What the front matter says -/

/-- The title in the front matter, or one made from the file name. -/
def title (r : Record) : String :=
  let fromName := String.ofList (Text.title r.header.filename.toList)
  match Value.lookup? "title" r.frontMatter with
  | some (.text s) => if allBlank s.toList then fromName else s
  | _ => fromName

def description (r : Record) : String :=
  match Value.lookup? "description" r.frontMatter with
  | some (.text s) => s
  | _ => ""

def isDraft (r : Record) : Bool :=
  match Value.lookup? "draft" r.frontMatter with
  | some (.bool true) => true
  | _ => false

/-- Whether the record is published: it is not kept back, and the time of a post has come. -/
def isPublished (now : Moment) (r : Record) : Bool :=
  !r.isDraft &&
    match r.header.publication with
    | none => true
    | some p => p.publishedAt.instant ≤ now.instant

def excerpt (r : Record) (length : Int) : String :=
  String.ofList (wordExcerpt r.header.rawContent.toList length)

def excerptLength : Int := 150

/-! ### The context -/

/-- The fields of a page by the names that templates use.  The front matter is shown as
`frontMatter`. -/
def pageFields (now : Moment) (r : Record) (frontMatter : Value) : List (Value × Value) :=
  [(.text "filename", .text r.header.filename),
    (.text "slug", .text r.header.slug),
    (.text "title", .text r.title),
    (.text "description", .text r.description),
    (.text "front_matter", frontMatter),
    (.text "raw_content", .text r.header.rawContent),
    (.text "content", .text r.header.renderedContent),
    (.text "last_modified", .moment r.header.lastModified),
    (.text "published", .bool (r.isPublished now))]

def postFields (r : Record) : List (Value × Value) :=
  match r.header.publication with
  | none => []
  | some p =>
    [(.text "published_at", .moment p.publishedAt),
      (.text "date", .moment p.publishedAt),
      (.text "categories", .list (p.categories.map Value.text)),
      (.text "tags", .list (p.tags.map Value.text)),
      (.text "excerpt", .text (r.excerpt excerptLength))]

def fields (now : Moment) (r : Record) (frontMatter : Value) : List (Value × Value) :=
  r.pageFields now frontMatter ++ r.postFields

def context (now : Moment) (r : Record) : List (Value × Value) :=
  Value.overlay r.frontMatter (r.fields now (.map r.frontMatter))

/-! ### Posts from pages -/

/-- The text items of a list, or the parts of a text between commas without blanks around them and
without empty ones. -/
def namesIn : Value → List String
  | .list items | .tuple items =>
    items.filterMap (fun v => match v with | .text s => some s | _ => none)
  | .text s =>
    (((splitAll ',' s.toList).map trim).filter (fun p => !p.isEmpty)).map String.ofList
  | _ => []

def momentIn? : Value → Option Moment
  | .moment m => some m
  | .date d => some (.ofDate d)
  | .text s => Moment.ofIso? s.toList
  | _ => none

/-- The post that the front matter of a page describes.  A page without a readable date is published
when it was last changed. -/
def asPost (r : Record) : Record :=
  let entry (key : String) : Value := (Value.lookup? key r.frontMatter).getD .null
  { r with
    header := { r.header with
      publication := some {
        publishedAt := (momentIn? (entry "date")).getD r.header.lastModified
        categories := namesIn (entry "categories")
        tags := namesIn (entry "tags") } } }

end Record

end SiteTemplates
