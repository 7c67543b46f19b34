import SiteTemplates.Template.Token
import SiteTemplates.Template.Expression
import SiteTemplates.Template.Balance

/-!
# Template trees

A template is a list of nodes.  `Node.build` reads the tokens from left to right and keeps the open
blocks on a stack, the innermost first: an opening mark puts one on, an `else` divides the innermost
one, and a closing mark takes it off and turns it into a node of the block around it.  Nothing else
can go wrong than what the marks themselves show, so the first mark at fault is the one reported.

`Node.ofSource` checks the balance of the keywords first and then builds the tree.  Block nesting is
limited, by the number of blocks that may be open at once.
-/

namespace SiteTemplates

open Text

/-- A part of a template.  The first body of a conditional counts when the value is true, or when it
is false if that is `negated`. -/
inductive Node where
  | text (s : String)
  | variable (expression : Expression)
  | conditional (path : String) (negated : Bool) (body alternative : List Node)
  | each (path : String) (body : List Node)
  | part (name : String)
  | block (name : String) (body : List Node)
  | layout (name : String) (fillings : List (String × List Node))
deriving Repr

namespace Node

def filling? : Node → Option (String × List Node)
  | block name body => some (name, body)
  | _ => none

/-- The node for a complete block.  Only a conditional keeps an alternative, and a layout keeps the
blocks that stand directly in its body. -/
def ofBlock (keyword : Keyword) (argument : String) (body alternative : List Node) : Node :=
  match keyword with
  | .whenTrue => .conditional argument false body alternative
  | .whenFalse => .conditional argument true body alternative
  | .each => .each argument body
  | .block => .block argument body
  | .layout => .layout argument (body.filterMap filling?)

end Node

def Keyword.isDivisible : Keyword → Bool
  | .whenTrue | .whenFalse => true
  | _ => false

/-- A block that is not closed yet, with the nodes before it in the block around it, last first, and
those before its `else`, once there was one. -/
structure OpenBlock where
  keyword : Keyword
  argument : String
  position : Nat
  before : List Node
  firstPart : Option (List Node)

namespace OpenBlock

/-- The node for a block that ends after `nodes`, which are the last first. -/
def close (o : OpenBlock) (nodes : List Node) : Node :=
  match o.firstPart with
  | none => Node.ofBlock o.keyword o.argument nodes.reverse []
  | some body => Node.ofBlock o.keyword o.argument body nodes.reverse

end OpenBlock

namespace Node

/-- Reads tokens with the blocks `stack` open, innermost first, and `nodes` read so far in the
innermost one, last first. -/
def build (source : List Char) (maxDepth : Int) (stack : List OpenBlock) (nodes : List Node) :
    List Token → Except Flaw (List Node)
  | [] =>
    match stack with
    | [] => .ok nodes.reverse
    | o :: _ => .error ⟨.unclosed o.keyword, some (lineAt source o.position)⟩
  | t :: rest =>
    let fault (d : Defect) : Except Flaw (List Node) :=
      .error ⟨d, some (lineAt source t.position)⟩
    match t.mark with
    | .text s => build source maxDepth stack (.text s :: nodes) rest
    | .part name => build source maxDepth stack (.part name :: nodes) rest
    | .variable expression =>
      match Expression.ofText expression.toList with
      | .ok e => build source maxDepth stack (.variable e :: nodes) rest
      | .error d => fault d
    | .opening keyword argument =>
      if maxDepth < stack.length + 1 then fault (.nestedTooDeep maxDepth)
      else
        match unquote argument.toList with
        | [] => fault (.missingArgument keyword)
        | name =>
          build source maxDepth (⟨keyword, String.ofList name, t.position, nodes, none⟩ :: stack) []
            rest
    | .otherwise =>
      match stack with
      | [] => fault .strayElse
      | o :: outer =>
        if o.keyword.isDivisible = true ∧ o.firstPart.isNone = true then
          build source maxDepth ({ o with firstPart := some nodes.reverse } :: outer) [] rest
        else fault (.elseInside o.keyword)
    | .closing word =>
      match stack with
      | [] => fault (.strayClose word)
      | o :: outer =>
        if word = o.keyword.word then build source maxDepth outer (o.close nodes :: o.before) rest
        else fault (.closedBy o.keyword word)

/-- Where every block is closed, the nodes that were read are the tree. -/
theorem build_nil (source : List Char) (maxDepth : Int) (nodes : List Node) :
    build source maxDepth [] nodes [] = .ok nodes.reverse := by
  simp only [build]

def defaultMaxDepth : Int := 50

def ofTokens (source : List Char) (maxDepth : Int) (tokens : List Token) :
    Except Flaw (List Node) :=
  build source maxDepth [] [] tokens

/-- Reads a source as a template with blocks nested at most `maxDepth` deep. -/
def ofSource (source : List Char) (maxDepth : Int) : Except Flaw (List Node) := do
  checkBalance source
  ofTokens source maxDepth (← Token.ofSource source)

end Node

end SiteTemplates
