import SiteTemplates.Text.Blank
import SiteTemplates.Text.Quotation
import SiteTemplates.Template.Piece
import SiteTemplates.Template.Defect

/-!
# Tokens

A token is a piece of the source together with what it is: text, a variable tag, a partial tag, or
one of the marks that open, divide and close a block.  `Token.ofSource` classifies the pieces from
left to right and stops at the first tag that is none of these.

What a tag is depends on its trimmed content alone.  After `#` stands a keyword, up to the first
space, and its argument; after `/` the word that is closed; after `>` the name of a partial, perhaps
in quotes; the word `else` stands for itself; all else is the expression of a variable.
-/

namespace SiteTemplates

open Text

inductive Mark where
  | text (s : String)
  | variable (expression : String)
  | part (name : String)
  | opening (keyword : Keyword) (argument : String)
  | closing (word : String)
  | otherwise
deriving DecidableEq, Repr

/-- A mark and where it stands, counted in characters from the start of the source. -/
structure Token where
  mark : Mark
  position : Nat
deriving DecidableEq, Repr

namespace Mark

def ofOpening (body : List Char) : Except Defect Mark :=
  let (word, argument) := cutAt ' ' (trim body)
  match Keyword.ofWord? (String.ofList word) with
  | some keyword => .ok (.opening keyword (String.ofList (trim argument)))
  | none => .error (.unknownBlock (String.ofList word))

def ofPart (body : List Char) : Except Defect Mark :=
  match unquote (trim body) with
  | [] => .error .unnamedPartial
  | name => .ok (.part (String.ofList name))

def ofContent : List Char → Except Defect Mark
  | [] => .error .emptyTag
  | '#' :: body => ofOpening body
  | '/' :: body => .ok (.closing (String.ofList (trim body)))
  | '>' :: body => ofPart body
  | content =>
    if content = "else".toList then .ok .otherwise else .ok (.variable (String.ofList content))

def ofPiece : Piece → Except Defect Mark
  | .text s => .ok (.text (String.ofList s))
  | .tag content => ofContent (trim content)

end Mark

namespace Token

/-- The tokens of the pieces that start at `position`, after those in `done` (last first). -/
def ofPieces (source : List Char) (position : Nat) (done : List Token) :
    List Piece → Except Flaw (List Token)
  | [] => .ok done.reverse
  | p :: rest =>
    match Mark.ofPiece p with
    | .ok mark => ofPieces source (position + p.written.length) (⟨mark, position⟩ :: done) rest
    | .error defect => .error ⟨defect, some (lineAt source position)⟩

/-- The tokens of a source, or the first tag that cannot be read. -/
def ofSource (source : List Char) : Except Flaw (List Token) :=
  ofPieces source 0 [] (pieces source)

end Token

end SiteTemplates
