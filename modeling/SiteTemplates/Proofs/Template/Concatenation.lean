import Mathlib.Data.List.Basic
import SiteTemplates.Proofs.Template.Reading

/-!
# One source after another

Two sources that are templates make one template, unless the seam makes a tag.  A tag across the
seam begins in the text after the last tag of the first source, with two braces there or with one at
its end.  Where that text has neither, it runs on into the text before the first tag of the second
source, and nothing else changes (`exists_pieces_append`).

So the marks of the whole are the marks of both with one text made of two at the seam.  A body that
ends in a text ends in a phrase of its own for it, and so does one that begins in a text
(`Phrase.exists_of_marksAll_append`, `Phrase.exists_of_append_marksAll`), whence the tree of the
whole is made of the two trees in the same way (`Node.exists_ofSource_append`).
-/

namespace SiteTemplates

/-! ### The seam -/

/-- The text after the last tag of a source. -/
def textAfterTags (s : List Char) : List Char :=
  match (pieces s).getLast? with
  | some (.text t) => t
  | _ => []

theorem textAfterTags_of_no_tag {s : List Char} (h : ¬ HasTag s) : textAfterTags s = s := by
  rw [textAfterTags, pieces_of_no_tag h, Piece.ofText]
  by_cases hs : s = []
  · rw [if_pos hs, hs]
    rfl
  · rw [if_neg hs]
    rfl

theorem textAfterTags_append_tag {text content : List Char} (rest : List Char)
    (ht : ¬ HasPair '{' (text ++ ['{'])) (hc : ¬ HasPair '}' (content ++ ['}'])) :
    textAfterTags (text ++ '{' :: '{' :: (content ++ '}' :: '}' :: rest)) =
      textAfterTags rest := by
  rw [textAfterTags, textAfterTags, pieces_append_tag rest ht hc, List.getLast?_append_cons]
  cases h : pieces rest with
  | nil => rfl
  | cons p ps => rw [List.getLast?_cons_cons]

/-- A pair that comes after a text lies behind it, unless the text holds one or ends in half of
one. -/
theorem exists_of_append_eq_pair {c : Char} {t x a b : List Char} (ht : ¬ HasPair c (t ++ [c]))
    (h : t ++ x = a ++ c :: c :: b) : ∃ a', x = a' ++ c :: c :: b := by
  rcases List.append_eq_append_iff.1 h with ⟨a', -, hx⟩ | ⟨d, rfl, hd⟩
  · exact ⟨a', hx⟩
  · match d, hd with
    | [], hd => exact ⟨[], hd.symm⟩
    | [y], hd =>
      obtain rfl : c = y := (List.cons.inj hd).1
      exact absurd (by simpa using hasPair_append c a []) ht
    | y :: z :: d, hd =>
      obtain rfl : c = y := (List.cons.inj hd).1
      obtain rfl : c = z := (List.cons.inj (List.cons.inj hd).2).1
      exact absurd (by simpa using hasPair_append c a (d ++ [c])) ht

variable {t : List Char}

theorem not_hasPair_append {c : Char} {x : List Char} (ht : ¬ HasPair c (t ++ [c]))
    (hx : ¬ HasPair c x) : ¬ HasPair c (t ++ x) := by
  rintro ⟨a, b, h⟩
  rw [List.append_assoc] at h
  obtain ⟨a', rfl⟩ := exists_of_append_eq_pair ht h.symm
  exact hx (hasPair_append c a' b)

theorem not_hasTag_append {s : List Char} (ht : ¬ HasPair '{' (t ++ ['{'])) (hs : ¬ HasTag s) :
    ¬ HasTag (t ++ s) := by
  rintro ⟨a, b, h, hb⟩
  obtain ⟨a', rfl⟩ := exists_of_append_eq_pair ht h
  exact hs ⟨a', b, rfl, hb⟩

theorem not_hasPair_concat {c : Char} (ht : ¬ HasPair c t) (hlast : t.getLast? ≠ some c) :
    ¬ HasPair c (t ++ [c]) := by
  rintro ⟨a, b, h⟩
  rcases List.eq_nil_or_concat' b with rfl | ⟨b, x, rfl⟩
  · have hsplit : a ++ [c] ++ [c] = t ++ [c] := by simpa using h
    obtain ⟨rfl, -⟩ := List.append_inj' hsplit rfl
    exact hlast List.getLast?_concat
  · have hsplit : a ++ c :: c :: b ++ [x] = t ++ [c] := by simpa using h
    obtain ⟨rfl, -⟩ := List.append_inj' hsplit rfl
    exact ht (hasPair_append c a b)

/-! ### Pieces -/

/-- What follows a source goes on from the text after its last tag. -/
theorem exists_pieces_eq (s : List Char) :
    ∃ a, pieces s = a ++ Piece.ofText (textAfterTags s) ∧
      ∀ s', pieces (s ++ s') = a ++ pieces (textAfterTags s ++ s') := by
  induction s using partition_induction with
  | plain s h =>
    rw [textAfterTags_of_no_tag h]
    exact ⟨[], pieces_of_no_tag h, fun _ => rfl⟩
  | tag text content rest ht hc ih =>
    obtain ⟨a, ha, happend⟩ := ih
    rw [textAfterTags_append_tag rest ht hc]
    refine ⟨Piece.ofText text ++ .tag content :: a, ?_, fun s' => ?_⟩
    · rw [pieces_append_tag rest ht hc, ha, List.append_assoc, List.cons_append]
    · have hsplit : text ++ '{' :: '{' :: (content ++ '}' :: '}' :: rest) ++ s' =
          text ++ '{' :: '{' :: (content ++ '}' :: '}' :: (rest ++ s')) := by simp
      rw [hsplit, pieces_append_tag _ ht hc, happend, List.append_assoc, List.cons_append]

/-- A text before a source runs on into the text that the source begins with. -/
theorem exists_pieces_text_append (ht : ¬ HasPair '{' (t ++ ['{'])) (s : List Char) :
    ∃ u b, pieces s = Piece.ofText u ++ b ∧ pieces (t ++ s) = Piece.ofText (t ++ u) ++ b := by
  by_cases h : HasTag s
  · obtain ⟨text, content, rest, rfl, htext, hc⟩ := exists_tag_of_hasTag h
    refine ⟨text, .tag content :: pieces rest, pieces_append_tag rest htext hc, ?_⟩
    have hopening : ¬ HasPair '{' (t ++ text ++ ['{']) := by
      rw [List.append_assoc]
      exact not_hasPair_append ht htext
    rw [← List.append_assoc]
    exact pieces_append_tag rest hopening hc
  · exact ⟨s, [], by rw [pieces_of_no_tag h, List.append_nil],
      by rw [pieces_of_no_tag (not_hasTag_append ht h), List.append_nil]⟩

/-- **The pieces of two sources**, one after the other: all pieces of both, but the texts at the
seam are one. -/
theorem exists_pieces_append {s₁ : List Char} (ht : ¬ HasPair '{' (textAfterTags s₁ ++ ['{']))
    (s₂ : List Char) : ∃ a t u b, pieces s₁ = a ++ Piece.ofText t ∧
      pieces s₂ = Piece.ofText u ++ b ∧ pieces (s₁ ++ s₂) = a ++ (Piece.ofText (t ++ u) ++ b) := by
  obtain ⟨a, ha, happend⟩ := exists_pieces_eq s₁
  obtain ⟨u, b, hb, hseam⟩ := exists_pieces_text_append ht s₂
  exact ⟨a, textAfterTags s₁, u, b, ha, hb, by rw [happend, hseam]⟩

/-! ### Phrases -/

namespace Phrase

def ofText (s : List Char) : List Phrase := if s = [] then [] else [.text (String.ofList s)]

theorem fitsAll_ofText (maxDepth : Int) (depth : Nat) (s : List Char) :
    FitsAll maxDepth depth (ofText s) := by
  unfold ofText
  split
  · trivial
  · exact ⟨trivial, trivial⟩

/-- The last mark of a phrase is a text only if the phrase is. -/
theorem exists_marks_eq_concat (p : Phrase) :
    ∃ ms m, p.marks = ms ++ [m] ∧ ∀ s, m = .text s → ms = [] ∧ p = .text s := by
  cases p with
  | text s' =>
    refine ⟨[], .text s', rfl, fun s hs => ⟨rfl, ?_⟩⟩
    rw [Mark.text.inj hs]
  | «variable» written e => exact ⟨[], .variable written, rfl, nofun⟩
  | part name => exact ⟨[], .part name, rfl, nofun⟩
  | block keyword argument body =>
    exact ⟨.opening keyword argument :: marksAll body, .closing keyword.word, rfl, nofun⟩
  | divided keyword argument body alternative =>
    exact ⟨.opening keyword argument :: (marksAll body ++ .otherwise :: marksAll alternative),
      .closing keyword.word, by simp [marks], nofun⟩

theorem eq_of_append_marks_eq {p : Phrase} {ls ms : List Mark} {s : String}
    (h : ls ++ p.marks = ms ++ [.text s]) : ls = ms ∧ p = .text s := by
  obtain ⟨init, m, hm, htext⟩ := exists_marks_eq_concat p
  rw [hm, ← List.append_assoc] at h
  obtain ⟨hls, hlast⟩ := List.append_inj' h rfl
  obtain ⟨rfl, hp⟩ := htext s (List.cons.inj hlast).1
  exact ⟨by rw [← hls, List.append_nil], hp⟩

/-- Only the phrase of a text begins with a text. -/
theorem eq_of_marks_append_eq {p : Phrase} {ls ms : List Mark} {s : String}
    (h : p.marks ++ ls = .text s :: ms) : p = .text s ∧ ls = ms := by
  cases p with
  | text s' =>
    obtain ⟨hs, hrest⟩ := List.cons.inj h
    exact ⟨congrArg text (Mark.text.inj hs), hrest⟩
  | _ => simp [marks] at h

/-- A body that ends in a text has a phrase for it. -/
theorem exists_of_marksAll_append {ps : List Phrase} {ms : List Mark} {s : List Char}
    (h : marksAll ps = ms ++ marksAll (ofText s)) :
    ∃ qs, ps = qs ++ ofText s ∧ marksAll qs = ms := by
  by_cases hs : s = []
  · rw [ofText, if_pos hs] at h ⊢
    exact ⟨ps, (List.append_nil ps).symm, h.trans (List.append_nil ms)⟩
  · rw [ofText, if_neg hs] at h ⊢
    rcases List.eq_nil_or_concat' ps with rfl | ⟨qs, p, rfl⟩
    · simp [marksAll, marks] at h
    · rw [marksAll_append, marksAll, marksAll, marksAll, marksAll, List.append_nil] at h
      obtain ⟨hqs, rfl⟩ := eq_of_append_marks_eq h
      exact ⟨qs, rfl, hqs⟩

/-- A body that begins with a text has a phrase for it. -/
theorem exists_of_append_marksAll {ps : List Phrase} {ms : List Mark} {s : List Char}
    (h : marksAll ps = marksAll (ofText s) ++ ms) :
    ∃ qs, ps = ofText s ++ qs ∧ marksAll qs = ms := by
  by_cases hs : s = []
  · rw [ofText, if_pos hs] at h ⊢
    exact ⟨ps, rfl, h⟩
  · rw [ofText, if_neg hs] at h ⊢
    cases ps with
    | nil => simp [marksAll, marks] at h
    | cons p qs =>
      obtain ⟨rfl, hqs⟩ := eq_of_marks_append_eq h
      exact ⟨qs, rfl, hqs⟩

end Phrase

/-! ### Marks of pieces -/

def HaveMarks (ps : List Piece) (ms : List Mark) : Prop := ps.map Mark.ofPiece = ms.map .ok

namespace HaveMarks

variable {ps qs : List Piece} {ms ms' : List Mark}

theorem append (hp : HaveMarks ps ms) (hq : HaveMarks qs ms') :
    HaveMarks (ps ++ qs) (ms ++ ms') := by
  rw [HaveMarks, List.map_append, List.map_append, hp, hq]

theorem exists_of_append (h : HaveMarks (ps ++ qs) ms) :
    ∃ ms₁ ms₂, ms = ms₁ ++ ms₂ ∧ HaveMarks ps ms₁ ∧ HaveMarks qs ms₂ := by
  rw [HaveMarks, List.map_append, eq_comm, List.map_eq_append_iff] at h
  obtain ⟨ms₁, ms₂, hms, h₁, h₂⟩ := h
  exact ⟨ms₁, ms₂, hms, h₁.symm, h₂.symm⟩

theorem eq (h : HaveMarks ps ms) (h' : HaveMarks ps ms') : ms = ms' :=
  List.map_injective_iff.2 (fun _ _ => Except.ok.inj) (h.symm.trans h')

theorem ofText (s : List Char) :
    HaveMarks (Piece.ofText s) (Phrase.marksAll (Phrase.ofText s)) := by
  unfold Piece.ofText Phrase.ofText
  split <;> rfl

/-- Pieces that have marks become tokens with these marks. -/
theorem exists_located (h : HaveMarks ps ms) (n : Nat) :
    ∃ ts, Token.Located n ps ts ∧ ts.map Token.mark = ms := by
  induction ps generalizing ms n with
  | nil =>
    rw [List.map_eq_nil_iff.1 h.symm]
    exact ⟨[], .nil n, rfl⟩
  | cons p ps ih =>
    obtain ⟨m, ms, rfl, hm, hms⟩ := List.map_eq_cons_iff.1 h.symm
    obtain ⟨ts, hts, hmarks⟩ := ih hms.symm (n + p.written.length)
    exact ⟨⟨m, n⟩ :: ts, .cons hm.symm hts, by rw [List.map_cons, hmarks]⟩

end HaveMarks

/-! ### Trees -/

namespace Node

variable {maxDepth : Int} {ns ns₁ ns₂ : List Node}

/-- A source that is read has the marks of a body, whose tree it is. -/
theorem exists_body_of_ofSource {s : List Char} (h : ofSource s maxDepth = .ok ns) :
    ∃ ps, Phrase.FitsAll maxDepth 0 ps ∧ Phrase.nodes ps = ns ∧
      HaveMarks (pieces s) (Phrase.marksAll ps) := by
  simp only [ofSource, bind, Except.bind] at h
  split at h
  · cases h
  · split at h
    · cases h
    · rename_i ts hts
      obtain ⟨⟨ps, hfits, hmarks⟩, hnodes⟩ := ofTokens_eq_ok_iff.1 h
      refine ⟨ps, hfits, hnodes, ?_⟩
      rw [HaveMarks, Token.map_ofPiece_of_ofSource hts, hmarks, List.map_map]
      rfl

/-- A source with the marks of a body is read as its tree. -/
theorem ofSource_of_body {s : List Char} {ps : List Phrase} (hfits : Phrase.FitsAll maxDepth 0 ps)
    (hmarks : HaveMarks (pieces s) (Phrase.marksAll ps)) :
    ofSource s maxDepth = .ok (Phrase.nodes ps) := by
  obtain ⟨ts, hts, heq⟩ := hmarks.exists_located 0
  have htokens : Token.ofSource s = .ok ts := Token.ofSource_eq_ok_iff_located.2 hts
  rw [ofSource, checkBalance_of_body htokens heq.symm, htokens]
  exact ofTokens_eq_ok_iff.2 ⟨⟨ps, hfits, heq.symm⟩, rfl⟩

/-- **The tree of two sources**, one after the other: the nodes of both, but the texts at the seam
are one. -/
theorem exists_ofSource_append {s₁ s₂ : List Char} (h₁ : ofSource s₁ maxDepth = .ok ns₁)
    (h₂ : ofSource s₂ maxDepth = .ok ns₂) (ht : ¬ HasPair '{' (textAfterTags s₁ ++ ['{'])) :
    ∃ xs t u ys, ns₁ = xs ++ Phrase.nodes (Phrase.ofText t) ∧
      ns₂ = Phrase.nodes (Phrase.ofText u) ++ ys ∧
      ofSource (s₁ ++ s₂) maxDepth =
        .ok (xs ++ (Phrase.nodes (Phrase.ofText (t ++ u)) ++ ys)) := by
  obtain ⟨a, t, u, b, ha, hb, hseam⟩ := exists_pieces_append ht s₂
  obtain ⟨ps₁, hfits₁, rfl, hps₁⟩ := exists_body_of_ofSource h₁
  obtain ⟨ps₂, hfits₂, rfl, hps₂⟩ := exists_body_of_ofSource h₂
  rw [ha] at hps₁
  rw [hb] at hps₂
  -- the bodies are divided where the pieces are
  obtain ⟨ms₁, mt, heq₁, hms₁, hmt⟩ := hps₁.exists_of_append
  obtain ⟨mu, ms₂, heq₂, hmu, hms₂⟩ := hps₂.exists_of_append
  rw [hmt.eq (.ofText t)] at heq₁
  rw [hmu.eq (.ofText u)] at heq₂
  obtain ⟨qs₁, rfl, rfl⟩ := Phrase.exists_of_marksAll_append heq₁
  obtain ⟨qs₂, rfl, rfl⟩ := Phrase.exists_of_append_marksAll heq₂
  have hfits : Phrase.FitsAll maxDepth 0 (qs₁ ++ (Phrase.ofText (t ++ u) ++ qs₂)) :=
    Phrase.fitsAll_append.2 ⟨(Phrase.fitsAll_append.1 hfits₁).1, Phrase.fitsAll_append.2
      ⟨Phrase.fitsAll_ofText maxDepth 0 (t ++ u), (Phrase.fitsAll_append.1 hfits₂).2⟩⟩
  have hmarks : HaveMarks (pieces (s₁ ++ s₂))
      (Phrase.marksAll (qs₁ ++ (Phrase.ofText (t ++ u) ++ qs₂))) := by
    rw [hseam, Phrase.marksAll_append, Phrase.marksAll_append]
    exact hms₁.append ((HaveMarks.ofText (t ++ u)).append hms₂)
  refine ⟨Phrase.nodes qs₁, t, u, Phrase.nodes qs₂, Phrase.nodes_append _ _,
    Phrase.nodes_append _ _, ?_⟩
  rw [ofSource_of_body hfits hmarks, Phrase.nodes_append, Phrase.nodes_append]

end Node

end SiteTemplates
