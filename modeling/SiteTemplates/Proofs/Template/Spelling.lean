import SiteTemplates.Template.Node
import SiteTemplates.Proofs.Template.Partition

/-!
# How a tree is spelled

Every tree can be written down as a source in one canonical way: tags without blanks around their
content, filters without blanks around bars, colons and commas, arguments in quotes, and an `else`
only where there is something after it.  `Node.spelled` is that source.

A tree is spelled without loss if its parts cannot be taken for something else (`Node.Spellable`):
names are plain, an argument leaves one kind of quote for its quotation and holds no `}}`, texts
hold no `{{` and are not split in two, and blocks are nested no deeper than they may be.
-/

namespace SiteTemplates

open Text

/-! ### Spelling -/

/-- A text in quotes: in double ones, or in single ones if it holds a double one. -/
def quotation (s : List Char) : List Char :=
  if '"' ∈ s then '\'' :: (s ++ ['\'']) else '"' :: (s ++ ['"'])

def tagged (content : List Char) : List Char := '{' :: '{' :: (content ++ ['}', '}'])

/-- Arguments behind a colon, with commas between them; nothing if there are none. -/
def spelledArguments : List String → List Char
  | [] => []
  | a :: rest =>
    ':' :: (quotation a.toList ++ (rest.map (fun b => quotation b.toList)).flatMap (',' :: ·))

def FilterCall.spelled (f : FilterCall) : List Char := f.name.toList ++ spelledArguments f.arguments

def Expression.spelled (e : Expression) : List Char :=
  e.path.toList ++ (e.filters.map FilterCall.spelled).flatMap ('|' :: ·)

def Keyword.opening (keyword : Keyword) (argument : String) : List Char :=
  tagged ('#' :: (keyword.word.toList ++ ' ' :: argument.toList))

def Keyword.closing (keyword : Keyword) : List Char := tagged ('/' :: keyword.word.toList)

def Keyword.ofConditional (negated : Bool) : Keyword := if negated then .whenFalse else .whenTrue

namespace Node

mutual

def spelled : Node → List Char
  | .text s => s.toList
  | .variable e => tagged e.spelled
  | .part name => tagged ('>' :: ' ' :: name.toList)
  | .conditional path negated body [] =>
    (Keyword.ofConditional negated).opening path ++
      (spelledAll body ++ (Keyword.ofConditional negated).closing)
  | .conditional path negated body (n :: alternative) =>
    (Keyword.ofConditional negated).opening path ++
      (spelledAll body ++ (tagged "else".toList ++
        (n.spelled ++ (spelledAll alternative ++ (Keyword.ofConditional negated).closing))))
  | .each path body => Keyword.each.opening path ++ (spelledAll body ++ Keyword.each.closing)
  | .block name body => Keyword.block.opening name ++ (spelledAll body ++ Keyword.block.closing)
  | .layout name fillings =>
    Keyword.layout.opening name ++ (spelledFillings fillings ++ Keyword.layout.closing)

/-- The source of nodes. -/
def spelledAll : List Node → List Char
  | [] => []
  | n :: rest => n.spelled ++ spelledAll rest

/-- The source of the blocks that fill the places of a layout. -/
def spelledFillings : List (String × List Node) → List Char
  | [] => []
  | (name, body) :: rest =>
    Keyword.block.opening name ++ (spelledAll body ++ Keyword.block.closing) ++
      spelledFillings rest

end

end Node

/-! ### What is spelled without loss -/

/-- A name without blanks and quotes and without the marks that have a meaning in tags. -/
def Plain (name : String) : Prop :=
  name.toList ≠ [] ∧ ∀ c ∈ name.toList,
    isBlank c = false ∧ isQuote c = false ∧ c ∉ ['|', ':', ',', '{', '}']

def SpellableArgument (a : String) : Prop :=
  ¬ HasPair '}' a.toList ∧ ¬ ('"' ∈ a.toList ∧ '\'' ∈ a.toList)

-- the characters of the name are tried, not all characters there are
instance (name : String) : Decidable (Plain name) :=
  @instDecidableAnd _ _ inferInstance (List.decidableBAll _ _)

instance decidableHasPair (c : Char) : (s : List Char) → Decidable (HasPair c s)
  | [] => isFalse (by simp [HasPair])
  | _ :: s =>
    have := decidableHasPair c s
    decidable_of_iff _ hasPair_cons.symm

instance (a : String) : Decidable (SpellableArgument a) := inferInstanceAs (Decidable (_ ∧ _))

def FilterCall.Spellable (f : FilterCall) : Prop :=
  Plain f.name ∧ ∀ a ∈ f.arguments, SpellableArgument a

instance (f : FilterCall) : Decidable f.Spellable := inferInstanceAs (Decidable (_ ∧ _))

/-- An expression has a plain path, which is not the word for another kind of tag and does not begin
with the mark of one, and its filters can be spelled. -/
def Expression.Spellable (e : Expression) : Prop :=
  Plain e.path ∧ e.path ≠ "else" ∧ e.path.toList.head? ∉ [some '#', some '/', some '>'] ∧
    ∀ f ∈ e.filters, f.Spellable

instance (e : Expression) : Decidable e.Spellable := inferInstanceAs (Decidable (_ ∧ _))

namespace Node

def isText : Node → Bool
  | .text _ => true
  | _ => false

mutual

/-- A node inside `depth` blocks is spelled without loss: its parts cannot be taken for something
else, and its blocks are nested at most `maxDepth` deep. -/
def Spellable (maxDepth : Int) (depth : Nat) : Node → Prop
  | .text s => s.toList ≠ [] ∧ ¬ HasPair '{' s.toList ∧ s.toList.getLast? ≠ some '{'
  | .variable e => e.Spellable
  | .part name => Plain name
  | .conditional path _ body alternative =>
    (Plain path ∧ (depth + 1 : Int) ≤ maxDepth) ∧ SpellableAll maxDepth (depth + 1) body ∧
      SpellableAll maxDepth (depth + 1) alternative
  | .each path body =>
    (Plain path ∧ (depth + 1 : Int) ≤ maxDepth) ∧ SpellableAll maxDepth (depth + 1) body
  | .block name body =>
    (Plain name ∧ (depth + 1 : Int) ≤ maxDepth) ∧ SpellableAll maxDepth (depth + 1) body
  | .layout name fillings =>
    (Plain name ∧ (depth + 1 : Int) ≤ maxDepth) ∧
      SpellableFillings maxDepth (depth + 1) fillings

/-- Nodes inside `depth` blocks are spelled without loss: each of them is, and no two texts stand
side by side. -/
def SpellableAll (maxDepth : Int) (depth : Nat) : List Node → Prop
  | [] => True
  | n :: rest =>
    n.Spellable maxDepth depth ∧ (n.isText = true → ∀ m ∈ rest.head?, m.isText = false) ∧
      SpellableAll maxDepth depth rest

/-- The blocks that fill the places of a layout inside `depth` blocks, the layout included, are
spelled without loss. -/
def SpellableFillings (maxDepth : Int) (depth : Nat) : List (String × List Node) → Prop
  | [] => True
  | (name, body) :: rest =>
    ((Plain name ∧ (depth + 1 : Int) ≤ maxDepth) ∧ SpellableAll maxDepth (depth + 1) body) ∧
      SpellableFillings maxDepth depth rest

end

end Node

end SiteTemplates
