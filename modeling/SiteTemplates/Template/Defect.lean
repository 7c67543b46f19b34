/-!
# Defects of template text

The ways in which a template source can fail to be a template, one constructor for each cause.  The
wording of all of them is in `Defect.reason`.
-/

namespace SiteTemplates

inductive Keyword where
  | whenTrue
  | whenFalse
  | each
  | block
  | layout
deriving DecidableEq, Repr

namespace Keyword

def word : Keyword → String
  | whenTrue => "if"
  | whenFalse => "unless"
  | each => "each"
  | block => "block"
  | layout => "extends"

def all : List Keyword := [whenTrue, whenFalse, each, block, layout]

def ofWord? (s : String) : Option Keyword := all.find? (fun k => k.word == s)

end Keyword

inductive Defect where
  | emptyTag
  | unknownBlock (word : String)
  | unnamedPartial
  | emptyExpression
  | invalidPath (path : String)
  | unnamedFilter (expression : String)
  | unbalanced (keyword : Keyword) (opened closed : Nat)
  | nestedTooDeep (limit : Int)
  | missingArgument (keyword : Keyword)
  | unclosed (keyword : Keyword)
  | elseInside (keyword : Keyword)
  | closedBy (keyword : Keyword) (word : String)
  | strayElse
  | strayClose (word : String)
deriving DecidableEq, Repr

def inBraces (s : String) : String := "\x7b\x7b" ++ s ++ "\x7d\x7d"

namespace Defect

def reason : Defect → String
  | emptyTag => "Empty tag"
  | unknownBlock word => "Unknown block tag '#" ++ word ++ "'"
  | unnamedPartial => "Partial tag without a name"
  | emptyExpression => "Empty variable tag"
  | invalidPath path => "Invalid variable path '" ++ path ++ "'"
  | unnamedFilter expression => "Empty filter name in '" ++ expression ++ "'"
  | unbalanced keyword opened closed =>
    "Unbalanced " ++ inBraces ("#" ++ keyword.word) ++ " markers: " ++ toString opened ++
      " opened, " ++ toString closed ++ " closed"
  | nestedTooDeep limit => "Maximum nesting depth of " ++ toString limit ++ " exceeded"
  | missingArgument keyword => inBraces ("#" ++ keyword.word) ++ " requires an argument"
  | unclosed keyword => "Unclosed " ++ inBraces ("#" ++ keyword.word)
  | elseInside keyword =>
    "Unexpected " ++ inBraces "else" ++ " inside " ++ inBraces ("#" ++ keyword.word)
  | closedBy keyword word =>
    "Expected " ++ inBraces ("/" ++ keyword.word) ++ " but found " ++ inBraces ("/" ++ word)
  | strayElse => inBraces "else" ++ " outside of an if/unless block"
  | strayClose word => "Unexpected " ++ inBraces ("/" ++ word)

end Defect

/-- A defect and, where it has a place, its line. -/
structure Flaw where
  defect : Defect
  line : Option Nat := none
deriving DecidableEq, Repr

namespace Flaw

def reason (f : Flaw) : String :=
  match f.line with
  | none => f.defect.reason
  | some n => f.defect.reason ++ " on line " ++ toString n

end Flaw

end SiteTemplates
