import SiteTemplates.Template.Node

/-!
# The grammar of templates

`Template/Node.lean` builds a tree with a stack of open blocks.  This file says which marks make a
template at all, and without a stack: a body is a sequence of phrases, a phrase is a text, a
variable, a partial or a block, and a block is a body between an opening and a closing mark of one
keyword, divided by an `else` at most once, and only if it is a conditional.

A `Phrase` is a derivation in that grammar.  `Phrase.marks` is what it derives, `Phrase.node` the
part of the tree that it stands for, and `Phrase.Fits` says that it keeps the side conditions:
expressions can be read, blocks have an argument and are nested at most so deep.

The grammar is unambiguous (`Phrase.eq_of_marksAll`).  Reading from the left, the first mark tells
which phrase comes, and a body goes on exactly as long as no closing mark and no `else` comes
(`Ends`); so two bodies that derive the same marks are the same body, whatever follows them.
-/

namespace SiteTemplates

open Text

/-- A derivation of a part of a template from its marks.  A variable tag is kept as it is written
and as it is read. -/
inductive Phrase where
  | text (s : String)
  | variable (written : String) (expression : Expression)
  | part (name : String)
  | block (keyword : Keyword) (argument : String) (body : List Phrase)
  | divided (keyword : Keyword) (argument : String) (body alternative : List Phrase)

namespace Phrase

mutual

def marks : Phrase → List Mark
  | .text s => [.text s]
  | .variable written _ => [.variable written]
  | .part name => [.part name]
  | .block keyword argument body =>
    .opening keyword argument :: (marksAll body ++ [.closing keyword.word])
  | .divided keyword argument body alternative =>
    .opening keyword argument ::
      (marksAll body ++ .otherwise :: (marksAll alternative ++ [.closing keyword.word]))

/-- The marks of a body. -/
def marksAll : List Phrase → List Mark
  | [] => []
  | p :: ps => p.marks ++ marksAll ps

end

def named (argument : String) : String := String.ofList (unquote argument.toList)

mutual

def node : Phrase → Node
  | .text s => .text s
  | .variable _ expression => .variable expression
  | .part name => .part name
  | .block .whenTrue argument body => .conditional (named argument) false (nodes body) []
  | .block .whenFalse argument body => .conditional (named argument) true (nodes body) []
  | .block .each argument body => .each (named argument) (nodes body)
  | .block .block argument body => .block (named argument) (nodes body)
  | .block .layout argument body => .layout (named argument) (fillings body)
  | .divided keyword argument body alternative =>
    .conditional (named argument) (keyword == .whenFalse) (nodes body) (nodes alternative)

def nodes : List Phrase → List Node
  | [] => []
  | p :: ps => p.node :: nodes ps

/-- What a body gives to a layout: the blocks that stand directly in it. -/
def fillings : List Phrase → List (String × List Node)
  | [] => []
  | p :: ps => p.filling ++ fillings ps

/-- The name and the content of a phrase that is a block, and nothing for any other phrase. -/
def filling : Phrase → List (String × List Node)
  | .block .block argument body => [(named argument, nodes body)]
  | _ => []

end

def Divisible (keyword : Keyword) : Prop := keyword = .whenTrue ∨ keyword = .whenFalse

mutual

/-- The side conditions of a phrase inside `depth` blocks. -/
def Fits (maxDepth : Int) (depth : Nat) : Phrase → Prop
  | .text _ => True
  | .variable written expression => Expression.ofText written.toList = .ok expression
  | .part _ => True
  | .block _ argument body =>
    (depth + 1 : Int) ≤ maxDepth ∧ unquote argument.toList ≠ [] ∧ FitsAll maxDepth (depth + 1) body
  | .divided keyword argument body alternative =>
    Divisible keyword ∧ (depth + 1 : Int) ≤ maxDepth ∧ unquote argument.toList ≠ [] ∧
      FitsAll maxDepth (depth + 1) body ∧ FitsAll maxDepth (depth + 1) alternative

/-- The side conditions of a body inside `depth` blocks. -/
def FitsAll (maxDepth : Int) (depth : Nat) : List Phrase → Prop
  | [] => True
  | p :: ps => p.Fits maxDepth depth ∧ FitsAll maxDepth depth ps

end

@[simp] theorem marksAll_append (ps qs : List Phrase) :
    marksAll (ps ++ qs) = marksAll ps ++ marksAll qs := by
  induction ps with
  | nil => rfl
  | cons p ps ih => rw [List.cons_append, marksAll, marksAll, ih, List.append_assoc]

@[simp] theorem nodes_append (ps qs : List Phrase) : nodes (ps ++ qs) = nodes ps ++ nodes qs := by
  induction ps with
  | nil => rfl
  | cons p ps ih => rw [List.cons_append, nodes, nodes, ih, List.cons_append]

theorem fitsAll_append {maxDepth : Int} {depth : Nat} {ps qs : List Phrase} :
    FitsAll maxDepth depth (ps ++ qs) ↔ FitsAll maxDepth depth ps ∧ FitsAll maxDepth depth qs := by
  induction ps with
  | nil => simp [FitsAll]
  | cons p ps ih => rw [List.cons_append, FitsAll, FitsAll, ih, and_assoc]

/-! ### Where a body ends -/

/-- No phrase begins here: there is nothing more, or a closing mark, or an `else`. -/
def Ends : List Mark → Prop
  | [] => True
  | .closing _ :: _ => True
  | .otherwise :: _ => True
  | _ => False

theorem ends_nil : Ends [] := trivial

theorem ends_closing (word : String) (ms : List Mark) : Ends (.closing word :: ms) := trivial

theorem ends_otherwise (ms : List Mark) : Ends (.otherwise :: ms) := trivial

theorem not_ends_marks (p : Phrase) (ms : List Mark) : ¬ Ends (p.marks ++ ms) := by
  cases p <;> simp [marks, Ends]

theorem marks_block_append (keyword : Keyword) (argument : String) (body : List Phrase)
    (ms : List Mark) : (block keyword argument body).marks ++ ms =
      .opening keyword argument :: (marksAll body ++ .closing keyword.word :: ms) := by
  simp [marks]

theorem marks_divided_append (keyword : Keyword) (argument : String)
    (body alternative : List Phrase) (ms : List Mark) :
    (divided keyword argument body alternative).marks ++ ms =
      .opening keyword argument ::
        (marksAll body ++ .otherwise :: (marksAll alternative ++ .closing keyword.word :: ms)) := by
  simp [marks]

/-! ### One derivation for each list of marks -/

variable {maxDepth : Int} {depth : Nat}

mutual

theorem eq_of_marks : ∀ (p q : Phrase) {depth : Nat} {rs ss : List Mark},
    p.Fits maxDepth depth → q.Fits maxDepth depth → p.marks ++ rs = q.marks ++ ss →
    p = q ∧ rs = ss
  | .text s, q, _, _, _, _, _, h => by
    cases q <;> simp_all [marks]
  | .variable written expression, q, _, _, _, hp, hq, h => by
    cases q with
    | «variable» written' expression' =>
      simp only [marks, List.cons_append, List.nil_append, List.cons.injEq,
        Mark.variable.injEq] at h
      obtain ⟨rfl, hrest⟩ := h
      have he : (Except.ok expression : Except Defect Expression) = .ok expression' :=
        hp.symm.trans hq
      rw [Except.ok.injEq] at he
      exact ⟨by rw [he], hrest⟩
    | _ => simp [marks] at h
  | .part name, q, _, _, _, _, _, h => by
    cases q <;> simp_all [marks]
  | .block keyword argument body, q, _, _, _, hp, hq, h => by
    cases q with
    | block keyword' argument' body' =>
      rw [marks_block_append, marks_block_append, List.cons.injEq, Mark.opening.injEq] at h
      obtain ⟨⟨rfl, rfl⟩, h⟩ := h
      obtain ⟨rfl, hrest⟩ :=
        eq_of_marksAll body body' hp.2.2 hq.2.2 (ends_closing _ _) (ends_closing _ _) h
      exact ⟨rfl, (List.cons.inj hrest).2⟩
    | divided keyword' argument' body' alternative' =>
      rw [marks_block_append, marks_divided_append, List.cons.injEq, Mark.opening.injEq] at h
      -- the first body is the same, but one block is closed after it and the other divided
      obtain ⟨-, hrest⟩ := eq_of_marksAll body body' hp.2.2 hq.2.2.2.1 (ends_closing _ _)
        (ends_otherwise _) h.2
      simp at hrest
    | _ => simp [marks] at h
  | .divided keyword argument body alternative, q, _, _, _, hp, hq, h => by
    cases q with
    | block keyword' argument' body' =>
      rw [marks_divided_append, marks_block_append, List.cons.injEq, Mark.opening.injEq] at h
      obtain ⟨-, hrest⟩ := eq_of_marksAll body body' hp.2.2.2.1 hq.2.2 (ends_otherwise _)
        (ends_closing _ _) h.2
      simp at hrest
    | divided keyword' argument' body' alternative' =>
      rw [marks_divided_append, marks_divided_append, List.cons.injEq, Mark.opening.injEq] at h
      obtain ⟨⟨rfl, rfl⟩, h⟩ := h
      obtain ⟨rfl, hafter⟩ := eq_of_marksAll body body' hp.2.2.2.1 hq.2.2.2.1 (ends_otherwise _)
        (ends_otherwise _) h
      obtain ⟨rfl, hrest⟩ := eq_of_marksAll alternative alternative' hp.2.2.2.2 hq.2.2.2.2
        (ends_closing _ _) (ends_closing _ _) (List.cons.inj hafter).2
      exact ⟨rfl, (List.cons.inj hrest).2⟩
    | _ => simp [marks] at h

/-- **The grammar is unambiguous.**  Two bodies that derive the same marks, up to a place where a
body ends, are one body. -/
theorem eq_of_marksAll : ∀ (ps qs : List Phrase) {depth : Nat} {rs ss : List Mark},
    FitsAll maxDepth depth ps → FitsAll maxDepth depth qs → Ends rs → Ends ss →
    marksAll ps ++ rs = marksAll qs ++ ss → ps = qs ∧ rs = ss
  | [], [], _, _, _, _, _, _, _, h => ⟨rfl, h⟩
  | [], q :: qs, _, _, _, _, _, hr, _, h => by
    rw [marksAll, marksAll, List.nil_append, List.append_assoc] at h
    exact absurd (h ▸ hr) (not_ends_marks q _)
  | p :: ps, [], _, _, _, _, _, _, hs, h => by
    rw [marksAll, marksAll, List.nil_append, List.append_assoc] at h
    exact absurd (h ▸ hs) (not_ends_marks p _)
  | p :: ps, q :: qs, _, _, _, hp, hq, hr, hs, h => by
    rw [marksAll, marksAll, List.append_assoc, List.append_assoc] at h
    obtain ⟨rfl, htail⟩ := eq_of_marks p q hp.1 hq.1 h
    obtain ⟨rfl, hrest⟩ := eq_of_marksAll ps qs hp.2 hq.2 hr hs htail
    exact ⟨rfl, hrest⟩

end

end Phrase

/-- A derivation of a whole template from its marks. -/
structure Derivation (maxDepth : Int) (ms : List Mark) where
  body : List Phrase
  fits : Phrase.FitsAll maxDepth 0 body
  marksAll_body : Phrase.marksAll body = ms

namespace Derivation

variable {maxDepth : Int} {ms : List Mark}

/-- The tree of a derivation. -/
def tree (d : Derivation maxDepth ms) : List Node := Phrase.nodes d.body

theorem eq (d d' : Derivation maxDepth ms) : d = d' := by
  obtain ⟨ps, hps, hms⟩ := d
  obtain ⟨qs, hqs, hms'⟩ := d'
  have h : Phrase.marksAll ps ++ [] = Phrase.marksAll qs ++ [] := by rw [hms, hms']
  obtain ⟨rfl, -⟩ := Phrase.eq_of_marksAll ps qs hps hqs Phrase.ends_nil Phrase.ends_nil h
  rfl

end Derivation

end SiteTemplates
