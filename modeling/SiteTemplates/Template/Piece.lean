/-!
# Tags in a template source

A tag is what stands between `{{` and the first `}}` after it; the rest of a source is plain text.
`pieces` cuts a source into text and tags by reading it once, one character at a time.  The state of
the reading is a `Scan`: inside a tag the next `}}` closes it, outside a tag the next `{{` opens
one.  A `{{` that is never closed is plain text, together with all that follows it.

Nothing is lost: writing the pieces one after the other, each tag in its braces, gives the source.
-/

namespace SiteTemplates

inductive Piece where
  | text (s : List Char)
  | tag (content : List Char)
deriving DecidableEq, Repr

namespace Piece

/-- The characters that a piece takes up in the source. -/
def written : Piece → List Char
  | text s => s
  | tag content => '{' :: '{' :: (content ++ ['}', '}'])

/-- How far a reading has come.  All three fields keep the latest first. -/
structure Scan where
  done : List Piece := []
  text : List Char := []
  tag : Option (List Char) := none
deriving DecidableEq, Repr

def flush (text : List Char) (done : List Piece) : List Piece :=
  if text.isEmpty then done else .text text.reverse :: done

def Scan.read (s : Scan) (c : Char) : Scan :=
  match s.tag with
  | none =>
    match s.text with
    | '{' :: before => if c = '{' then ⟨s.done, before, some []⟩ else ⟨s.done, c :: s.text, none⟩
    | _ => ⟨s.done, c :: s.text, none⟩
  | some content =>
    match content with
    | '}' :: inside =>
      if c = '}' then ⟨.tag inside.reverse :: flush s.text s.done, [], none⟩
      else ⟨s.done, s.text, some (c :: content)⟩
    | _ => ⟨s.done, s.text, some (c :: content)⟩

/-- The pieces of a source that ends here.  An open tag turns out to be text. -/
def Scan.finish (s : Scan) : List Piece :=
  match s.tag with
  | none => (flush s.text s.done).reverse
  | some content => (flush (content ++ '{' :: '{' :: s.text) s.done).reverse

end Piece

def pieces (source : List Char) : List Piece := (source.foldl Piece.Scan.read {}).finish

def lineAt (source : List Char) (offset : Nat) : Nat := (source.take offset).count '\n' + 1

end SiteTemplates
