import SiteTemplates.Proofs.Template.Grammar
import SiteTemplates.Proofs.Template.Partition

/-!
# Derivations are balanced

The count of keywords looks at the pieces of a source, the grammar at its marks.  A piece that
opens or closes a word has a mark that does the same (`openedWord?_eq`, `closedWord?_eq`), and in
the marks of a body each keyword is opened as often as it is closed (`countP_marksAll`).  So the
count is one of the marks (`checkBalance_iff_countP`), and it lets every source pass that has a
derivation (`checkBalance_of_body`).
-/

namespace SiteTemplates

open Text

theorem Keyword.word_inj {k k' : Keyword} : k.word = k'.word ↔ k = k' := by
  cases k <;> cases k' <;> decide

namespace Mark

def openedKeyword? : Mark → Option Keyword
  | .opening keyword _ => some keyword
  | _ => none

def closedWord? : Mark → Option String
  | .closing word => some word
  | _ => none

def opens (keyword : Keyword) (m : Mark) : Bool := m.openedKeyword? == some keyword

def closes (keyword : Keyword) (m : Mark) : Bool := m.closedWord? == some keyword.word

variable (keyword k : Keyword) (argument : String)

@[simp] theorem opens_opening : opens keyword (.opening k argument) = (k == keyword) := rfl

@[simp] theorem opens_closing (word : String) : opens keyword (.closing word) = false := rfl

@[simp] theorem opens_otherwise : opens keyword .otherwise = false := rfl

@[simp] theorem closes_opening : closes keyword (.opening k argument) = false := rfl

@[simp] theorem closes_closing : closes keyword (.closing k.word) = (k == keyword) := by
  rw [Bool.eq_iff_iff]
  simp [closes, closedWord?, Keyword.word_inj]

@[simp] theorem closes_otherwise : closes keyword .otherwise = false := rfl

end Mark

namespace Piece

variable {p : Piece} {m : Mark} {ps : List Piece} {ms : List Mark}

theorem openedWord?_eq (h : Mark.ofPiece p = .ok m) :
    p.openedWord? = m.openedKeyword?.map Keyword.word := by
  cases p with
  | text s =>
    rw [Mark.ofPiece, Except.ok.injEq] at h
    rw [← h]
    rfl
  | tag content =>
    obtain ⟨body, keyword, hb, rfl, hk⟩ | ⟨body, hb, rfl⟩ | ⟨body, hb, rfl, -⟩ | ⟨hb, hm⟩ :=
      Mark.ofContent_cases h
    · simp [openedWord?, hb, Mark.openedKeyword?, hk]
    · simp [openedWord?, hb, Mark.openedKeyword?]
    · simp [openedWord?, hb, Mark.openedKeyword?]
    · simp only [openedWord?]
      split
      · rename_i body hbody
        exact absurd hbody (hb body).1
      · rcases hm with rfl | rfl <;> rfl

theorem closedWord?_eq (h : Mark.ofPiece p = .ok m) : p.closedWord? = m.closedWord? := by
  cases p with
  | text s =>
    rw [Mark.ofPiece, Except.ok.injEq] at h
    rw [← h]
    rfl
  | tag content =>
    obtain ⟨body, keyword, hb, rfl, hk⟩ | ⟨body, hb, rfl⟩ | ⟨body, hb, rfl, -⟩ | ⟨hb, hm⟩ :=
      Mark.ofContent_cases h
    · simp [closedWord?, hb, Mark.closedWord?]
    · simp [closedWord?, hb, Mark.closedWord?]
    · simp [closedWord?, hb, Mark.closedWord?]
    · simp only [closedWord?]
      split
      · rename_i body hbody
        exact absurd hbody (hb body).2.1
      · rcases hm with rfl | rfl <;> rfl

theorem opened_eq_countP (keyword : Keyword) (h : ps.map Mark.ofPiece = ms.map .ok) :
    opened keyword ps = ms.countP (Mark.opens keyword) := by
  induction ps generalizing ms with
  | nil => rw [List.map_eq_nil_iff.1 h.symm]; rfl
  | cons p ps ih =>
    obtain ⟨m, ms, rfl, hm, hms⟩ := List.map_eq_cons_iff.1 h.symm
    have hword : (p.openedWord? == some keyword.word) = m.opens keyword := by
      rw [Bool.eq_iff_iff]
      simp [Mark.opens, openedWord?_eq hm.symm, Keyword.word_inj]
    rw [opened, List.countP_cons, List.countP_cons, hword, ← ih hms.symm]
    rfl

theorem closed_eq_countP (keyword : Keyword) (h : ps.map Mark.ofPiece = ms.map .ok) :
    closed keyword ps = ms.countP (Mark.closes keyword) := by
  induction ps generalizing ms with
  | nil => rw [List.map_eq_nil_iff.1 h.symm]; rfl
  | cons p ps ih =>
    obtain ⟨m, ms, rfl, hm, hms⟩ := List.map_eq_cons_iff.1 h.symm
    rw [closed, List.countP_cons, List.countP_cons, closedWord?_eq hm.symm, ← ih hms.symm]
    rfl

end Piece

namespace Phrase

mutual

theorem countP_marks (keyword : Keyword) : ∀ p : Phrase,
    p.marks.countP (Mark.opens keyword) = p.marks.countP (Mark.closes keyword)
  | .text _ | .variable _ _ | .part _ => rfl
  | .block k argument body => by
    have ih := countP_marksAll keyword body
    simp [marks, List.countP_cons, List.countP_append, ih]
  | .divided k argument body alternative => by
    have ih := countP_marksAll keyword body
    have ih' := countP_marksAll keyword alternative
    simp [marks, List.countP_cons, List.countP_append, ih, ih', Nat.add_assoc]

/-- **A body is balanced**: each keyword is opened in it as often as it is closed. -/
theorem countP_marksAll (keyword : Keyword) : ∀ ps : List Phrase,
    (marksAll ps).countP (Mark.opens keyword) = (marksAll ps).countP (Mark.closes keyword)
  | [] => rfl
  | p :: ps => by
    rw [marksAll, List.countP_append, List.countP_append, countP_marks keyword p,
      countP_marksAll keyword ps]

end

end Phrase

/-! ### The count -/

/-- The count lets a source pass in whose pieces each keyword is opened as often as closed. -/
theorem checkBalance_eq_ok_iff (source : List Char) : checkBalance source = .ok () ↔
    ∀ keyword, Piece.opened keyword (pieces source) = Piece.closed keyword (pieces source) := by
  have hall : ∀ keyword : Keyword, keyword ∈ Keyword.all := by
    intro keyword
    cases keyword <;> decide
  have hnone : Piece.imbalance? (pieces source) = none ↔
      ∀ keyword, Piece.opened keyword (pieces source) = Piece.closed keyword (pieces source) := by
    simp [Piece.imbalance?, List.findSome?_eq_none_iff, hall]
  rw [← hnone, checkBalance]
  cases Piece.imbalance? (pieces source) <;> simp

/-- Where the tokens can be made out, the count is one of their marks. -/
theorem checkBalance_iff_countP {source : List Char} {ts : List Token}
    (hts : Token.ofSource source = .ok ts) : checkBalance source = .ok () ↔
      ∀ keyword, (ts.map Token.mark).countP (Mark.opens keyword) =
        (ts.map Token.mark).countP (Mark.closes keyword) := by
  have hmarks : (pieces source).map Mark.ofPiece = (ts.map Token.mark).map .ok := by
    rw [List.map_map]
    exact Token.map_ofPiece_of_ofSource hts
  rw [checkBalance_eq_ok_iff]
  refine forall_congr' fun keyword => ?_
  rw [Piece.opened_eq_countP keyword hmarks, Piece.closed_eq_countP keyword hmarks]

/-- The count of keywords lets pass what has a derivation. -/
theorem checkBalance_of_body {source : List Char} {ts : List Token} {ps : List Phrase}
    (hts : Token.ofSource source = .ok ts) (hps : Phrase.marksAll ps = ts.map Token.mark) :
    checkBalance source = .ok () := by
  rw [checkBalance_iff_countP hts, ← hps]
  exact fun keyword => Phrase.countP_marksAll keyword ps

end SiteTemplates
