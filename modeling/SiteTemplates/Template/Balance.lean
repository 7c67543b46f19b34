import SiteTemplates.Template.Token

/-!
# Balance of block keywords

Before a source is read as a template, each keyword is counted: it has to be closed as often as it
is opened.  The count looks at the tags alone and asks nothing of their order, so it says more about
a forgotten closing tag than the reading can, and less about a misplaced one.
-/

namespace SiteTemplates

open Text

namespace Piece

def openedWord? : Piece → Option String
  | .tag content =>
    match trim content with
    | '#' :: body => some (String.ofList (cutAt ' ' (trim body)).1)
    | _ => none
  | .text _ => none

def closedWord? : Piece → Option String
  | .tag content =>
    match trim content with
    | '/' :: body => some (String.ofList (trim body))
    | _ => none
  | .text _ => none

def opened (keyword : Keyword) (ps : List Piece) : Nat :=
  ps.countP (fun p => p.openedWord? == some keyword.word)

def closed (keyword : Keyword) (ps : List Piece) : Nat :=
  ps.countP (fun p => p.closedWord? == some keyword.word)

/-- The first keyword that is not closed as often as it is opened. -/
def imbalance? (ps : List Piece) : Option Defect :=
  Keyword.all.findSome? (fun keyword =>
    if opened keyword ps = closed keyword ps then none
    else some (.unbalanced keyword (opened keyword ps) (closed keyword ps)))

end Piece

/-- Refuses a source in which a keyword is not closed as often as it is opened. -/
def checkBalance (source : List Char) : Except Flaw Unit :=
  match Piece.imbalance? (pieces source) with
  | some defect => .error ⟨defect, none⟩
  | none => .ok ()

end SiteTemplates
