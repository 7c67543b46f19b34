import SiteTemplates.Proofs.Template.SpelledExpression

/-!
# How a source is cut

The tokens of a source cover it without gap or overlap, and each stands for what it covers
(`Token.ofSource_eq_ok_iff_partition`).  Which tokens these are follows from that alone: a text goes
as far as it can without a tag in it, and a tag ends at its first closing braces.

The cut is made in the pieces, so that is where it is described first.  `Piece.Cut` looks at
neighbours only; the pieces of a source are cut so, and pieces that are cut so are the pieces of
what they make up (`pieces_eq_iff`).  `Mark.Names` says what the content of a tag stands for without
the reading of it (`Mark.ofContent_eq_ok_iff`).  By induction over the pieces and the tokens beside
them (`Token.Located`) one description becomes the other.
-/

namespace SiteTemplates

open Text

/-! ### Pieces -/

theorem unpaired_iff {c : Char} {s : List Char} :
    Unpaired c s ↔ ¬ HasPair c s ∧ s.getLast? ≠ some c := by
  constructor
  · intro h
    refine ⟨fun hp => h (hp.mono (List.prefix_append s [c]).isInfix), fun hlast => h ?_⟩
    obtain ⟨a, rfl⟩ := List.getLast?_eq_some_iff.1 hlast
    simpa using hasPair_append c a []
  · exact fun h => not_hasPair_concat h.1 h.2

theorem not_hasTag_of_unpaired {s : List Char} (h : Unpaired '{' s) : ¬ HasTag s := by
  rintro ⟨a, b, rfl, -⟩
  exact (unpaired_iff.1 h).1 (hasPair_append '{' a b)

namespace Piece

def isText : Piece → Bool
  | .text _ => true
  | .tag _ => false

/-- A piece on its own: no text is empty, and no tag holds the braces that would close it. -/
def Formed : Piece → Prop
  | .text t => t ≠ []
  | .tag content => Unpaired '}' content

/-- Pieces as they come one after the other: a tag comes after a text, at the first braces that can
open it, and a text at the end holds no tag. -/
def Cut : List Piece → Prop
  | [] => True
  | [p] => p.Formed ∧ ∀ t, p = .text t → ¬ HasTag t
  | p :: q :: ps =>
    p.Formed ∧ (∀ t, p = .text t → q.isText = false ∧ Unpaired '{' t) ∧ Cut (q :: ps)

variable {p : Piece} {ps : List Piece} {t content : List Char}

theorem cut_tag_cons : Cut (.tag content :: ps) ↔ Unpaired '}' content ∧ Cut ps := by
  cases ps <;> simp [Cut, Formed]

theorem Cut.formed (h : Cut ps) : ∀ p ∈ ps, p.Formed := by
  induction ps with
  | nil => exact fun p hp => absurd hp List.not_mem_nil
  | cons p ps ih =>
    cases ps with
    | nil => simpa using h.1
    | cons q ps => exact List.forall_mem_cons.2 ⟨h.1, ih h.2.2⟩

theorem Formed.written_ne_nil (h : p.Formed) : p.written ≠ [] := by
  cases p with
  | text t => exact h
  | tag content => simp [written]

end Piece

open Piece (Cut)

theorem pieces_tag_append {content : List Char} (h : Unpaired '}' content) (s : List Char) :
    pieces (tagged content ++ s) = .tag content :: pieces s := by
  have hsplit : tagged content ++ s = [] ++ '{' :: '{' :: (content ++ '}' :: '}' :: s) := by
    simp [tagged]
  rw [hsplit, pieces_append_tag s (not_hasPair_singleton '{' '{') h]
  rfl

/-- A text before a source that does not begin with text is a piece of its own. -/
theorem pieces_text_append {t s : List Char} (ht : Unpaired '{' t)
    (hs : ∀ p ∈ (pieces s).head?, p.isText = false) :
    pieces (t ++ s) = Piece.ofText t ++ pieces s := by
  obtain ⟨u, b, hpieces, happend⟩ := exists_pieces_text_append ht s
  have hu : u = [] := by
    by_contra hne
    rw [hpieces, Piece.ofText, if_neg hne] at hs
    exact absurd (hs _ rfl) (by simp [Piece.isText])
  rw [hu, List.append_nil] at happend
  rw [happend, hpieces, hu]
  rfl

theorem flatMap_written_pieces (s : List Char) : (pieces s).flatMap Piece.written = s := by
  have hofText : ∀ t, (Piece.ofText t).flatMap Piece.written = t := by
    intro t
    unfold Piece.ofText
    split
    · simp [*]
    · simp [Piece.written]
  induction s using partition_induction with
  | plain s h => rw [pieces_of_no_tag h, hofText]
  | tag text content rest ht hc ih =>
    rw [pieces_append_tag rest ht hc, List.flatMap_append, hofText, List.flatMap_cons, ih]
    simp [Piece.written]

theorem cut_pieces (s : List Char) : Cut (pieces s) := by
  induction s using partition_induction with
  | plain s h =>
    rw [pieces_of_no_tag h]
    unfold Piece.ofText
    split
    · trivial
    · rename_i hs
      refine ⟨hs, ?_⟩
      rintro t ⟨⟩
      exact h
  | tag text content rest ht hc ih =>
    rw [pieces_append_tag rest ht hc]
    have hrest : Cut (.tag content :: pieces rest) := Piece.cut_tag_cons.2 ⟨hc, ih⟩
    unfold Piece.ofText
    split
    · exact hrest
    · rename_i htext
      refine ⟨htext, ?_, hrest⟩
      rintro t ⟨⟩
      exact ⟨rfl, ht⟩

theorem pieces_of_cut {ps : List Piece} (h : Cut ps) : pieces (ps.flatMap Piece.written) = ps := by
  induction ps with
  | nil => rfl
  | cons p ps ih =>
    rw [List.flatMap_cons]
    cases p with
    | tag content =>
      obtain ⟨hc, hps⟩ := Piece.cut_tag_cons.1 h
      rw [show Piece.written (.tag content) = tagged content from rfl, pieces_tag_append hc, ih hps]
    | text t =>
      cases ps with
      | nil =>
        rw [List.flatMap_nil, List.append_nil, Piece.written, pieces_of_no_tag (h.2 t rfl),
          Piece.ofText, if_neg h.1]
      | cons q ps =>
        obtain ⟨hne, hnext, hps⟩ := h
        obtain ⟨hq, ht⟩ := hnext t rfl
        have hhead : ∀ p ∈ (pieces ((q :: ps).flatMap Piece.written)).head?, p.isText = false := by
          rw [ih hps]
          rintro p ⟨⟩
          exact hq
        rw [Piece.written, pieces_text_append ht hhead, ih hps, Piece.ofText, if_neg hne,
          List.singleton_append]

/-- **The pieces of a source** are the ones that make it up and are cut so. -/
theorem pieces_eq_iff {s : List Char} {ps : List Piece} :
    pieces s = ps ↔ ps.flatMap Piece.written = s ∧ Cut ps := by
  constructor
  · rintro rfl
    exact ⟨flatMap_written_pieces s, cut_pieces s⟩
  · rintro ⟨rfl, h⟩
    exact pieces_of_cut h

/-! ### What a tag says -/

/-- The trimmed content of a tag and the mark that it stands for. -/
inductive Mark.Names : List Char → Mark → Prop
  | bare {body : List Char} {keyword : Keyword} (h : trim body = keyword.word.toList) :
      Names ('#' :: body) (.opening keyword "")
  | opening {body argument : List Char} {keyword : Keyword}
      (h : trim body = keyword.word.toList ++ ' ' :: argument) :
      Names ('#' :: body) (.opening keyword (String.ofList (trim argument)))
  | closing (body : List Char) : Names ('/' :: body) (.closing (String.ofList (trim body)))
  | part {body : List Char} (h : unquote (trim body) ≠ []) :
      Names ('>' :: body) (.part (String.ofList (unquote (trim body))))
  | otherwise : Names "else".toList .otherwise
  | variable {c : Char} {rest : List Char} (hmark : c ∉ ['#', '/', '>'])
      (helse : c :: rest ≠ "else".toList) :
      Names (c :: rest) (.variable (String.ofList (c :: rest)))

theorem Keyword.ofWord?_word (keyword : Keyword) : ofWord? keyword.word = some keyword := by
  cases keyword <;> decide

namespace Mark

variable {content body : List Char} {m : Mark}

theorem ofOpening_eq_ok_iff : ofOpening body = .ok m ↔ Names ('#' :: body) m := by
  constructor
  · intro h
    simp only [ofOpening] at h
    split at h
    · rename_i keyword hk
      rw [Except.ok.injEq] at h
      have hword := congrArg String.toList (Keyword.word_of_ofWord? hk)
      rw [String.toList_ofList] at hword
      by_cases hspace : ' ' ∈ trim body
      · obtain ⟨word, argument, hbody, hfree⟩ := List.eq_append_cons_of_mem hspace
        rw [hbody, cutAt_append hfree] at h hword
        rw [← h]
        exact .opening (by rw [hbody, hword])
      · rw [cutAt_of_not_mem hspace] at h hword
        rw [← h]
        exact .bare hword.symm
    · cases h
  · have hfree : ∀ keyword : Keyword, ' ' ∉ keyword.word.toList := by
      intro keyword
      cases keyword <;> decide
    intro h
    cases h with
    | @bare _ keyword h =>
      rw [ofOpening, h, cutAt_of_not_mem (hfree keyword)]
      simp [String.ofList_toList, Keyword.ofWord?_word]
      rfl
    | @opening _ argument keyword h =>
      rw [ofOpening, h, cutAt_append (hfree keyword)]
      simp [String.ofList_toList, Keyword.ofWord?_word]
    | «variable» hmark helse => simp at hmark

theorem ofContent_of_unmarked {c : Char} {rest : List Char} (hmark : c ∉ ['#', '/', '>'])
    (helse : c :: rest ≠ "else".toList) :
    ofContent (c :: rest) = .ok (.variable (String.ofList (c :: rest))) := by
  simp only [List.mem_cons, List.not_mem_nil, or_false, not_or] at hmark
  unfold ofContent
  split
  · contradiction
  · simp_all
  · simp_all
  · simp_all
  · rw [if_neg helse]

theorem ofContent_eq_ok_iff : ofContent content = .ok m ↔ Names content m := by
  constructor
  · intro h
    unfold ofContent at h
    split at h
    · cases h
    · exact ofOpening_eq_ok_iff.1 h
    · rename_i body
      rw [← Except.ok.inj h]
      exact .closing body
    · unfold ofPart at h
      split at h
      · cases h
      · rename_i hne
        rw [← Except.ok.inj h]
        exact .part hne
    · rename_i hnil hopening hclosing hpart
      obtain ⟨c, rest, rfl⟩ := List.exists_cons_of_ne_nil hnil
      split at h
      · rename_i helse
        rw [← Except.ok.inj h, helse]
        exact .otherwise
      · rename_i helse
        rw [← Except.ok.inj h]
        refine .variable ?_ helse
        simp_all
  · intro h
    cases h with
    | bare h => exact ofOpening_eq_ok_iff.2 (.bare h)
    | opening h => exact ofOpening_eq_ok_iff.2 (.opening h)
    | closing body => rfl
    | part h =>
      rw [ofContent, ofPart]
      split
      · contradiction
      · rfl
    | otherwise => rfl
    | «variable» hmark helse => exact ofContent_of_unmarked hmark helse

variable {p q : Piece} {m' : Mark}

theorem Names.ne_text (h : Names content m) (s : String) : m ≠ .text s := by
  cases h <;> nofun

/-- What holds of the text of a piece holds of the text of its mark. -/
theorem forall_text_iff (h : ofPiece p = .ok m) (P : List Char → Prop) :
    (∀ t, p = .text t → P t) ↔ ∀ s, m = .text s → P s.toList := by
  cases p with
  | text t =>
    rw [← Except.ok.inj h]
    simp
  | tag content => simp [(ofContent_eq_ok_iff.1 h).ne_text]

theorem isText_eq_false_iff (h : ofPiece p = .ok m) : p.isText = false ↔ ∀ s, m ≠ .text s := by
  have htext := forall_text_iff h (fun _ => False)
  cases p <;> simp_all [Piece.isText]

/-- A mark stands for a part of the source: for the text that it holds, or for a tag that its first
closing braces close and whose content names the mark. -/
inductive Covers : Mark → List Char → Prop
  | text {s : String} (h : s.toList ≠ []) : Covers (.text s) s.toList
  | tag {content : List Char} {m : Mark} (hclosed : Unpaired '}' content)
      (hnames : Names (trim content) m) : Covers m (tagged content)

theorem covers_iff {part : List Char} :
    m.Covers part ↔ ∃ p : Piece, p.Formed ∧ p.written = part ∧ ofPiece p = .ok m := by
  constructor
  · intro h
    cases h with
    | @text s h => exact ⟨.text s.toList, h, rfl, by rw [ofPiece, String.ofList_toList]⟩
    | @tag content _ hclosed hnames =>
      exact ⟨.tag content, hclosed, rfl, ofContent_eq_ok_iff.2 hnames⟩
  · rintro ⟨p, hp, rfl, hm⟩
    cases p with
    | text t =>
      have ht : t = (String.ofList t).toList := String.toList_ofList.symm
      rw [← Except.ok.inj hm, Piece.written, ht, String.ofList_toList]
      exact .text (by rwa [← ht])
    | tag content => exact .tag hp (ofContent_eq_ok_iff.1 hm)

end Mark

/-! ### Tokens -/

namespace Token

/-- Where the first of some tokens stands, or the end of the source if there is none. -/
def start (source : List Char) : List Token → Nat
  | [] => source.length
  | t :: _ => t.position

/-- What is between each token and the next one, or the end of the source. -/
def parts (source : List Char) : List Token → List (List Char)
  | [] => []
  | t :: ts => (source.take (start source ts)).drop t.position :: parts source ts

/-- Tokens as they come one after the other: a tag comes after a text, at the first braces that can
open it, and a text at the end holds no tag. -/
def Delimited : List Token → Prop
  | [] => True
  | [t] => ∀ s, t.mark = .text s → ¬ HasTag s.toList
  | t :: u :: ts =>
    (∀ s, t.mark = .text s → (∀ s', u.mark ≠ .text s') ∧ ¬ HasPair '{' s.toList ∧
      s.toList.getLast? ≠ some '{') ∧ Delimited (u :: ts)

/-- The tokens divide the source among them. -/
structure Partition (source : List Char) (ts : List Token) : Prop where
  /-- The first token stands at the start, and only an empty source has none. -/
  start_eq : start source ts = 0
  /-- Every token stands before the next. -/
  increasing : ts.Pairwise (fun t u => t.position < u.position)
  /-- Every token stands in the source. -/
  inside : ∀ t ∈ ts, t.position < source.length
  /-- The parts make up the source. -/
  flatten : (parts source ts).flatten = source
  /-- Each token stands for its part. -/
  covers : List.Forall₂ (fun t part => t.mark.Covers part) ts (parts source ts)
  /-- The parts could not be cut otherwise. -/
  delimited : Delimited ts

variable {source : List Char} {n : Nat} {ps : List Piece} {ts : List Token}

namespace Located

/-- The parts between tokens are what their pieces take up. -/
theorem start_and_parts (h : Located n ps ts) (before : List Char) (hn : before.length = n) :
    start (before ++ ps.flatMap Piece.written) ts = n ∧
      parts (before ++ ps.flatMap Piece.written) ts = ps.map Piece.written := by
  induction h generalizing before with
  | nil n =>
    rw [List.flatMap_nil, List.append_nil]
    exact ⟨hn, rfl⟩
  | @cons n p m ps ts hm h ih =>
    have hlength : (before ++ p.written).length = n + p.written.length := by
      rw [List.length_append, hn]
    obtain ⟨hstart, hparts⟩ := ih (before ++ p.written) hlength
    rw [List.flatMap_cons, ← List.append_assoc]
    refine ⟨rfl, ?_⟩
    rw [parts, hstart, hparts, ← hlength, List.take_left, ← hn, List.drop_left, List.map_cons]

theorem covers (h : Located n ps ts) (hps : ∀ p ∈ ps, p.Formed) :
    List.Forall₂ (fun t part => t.mark.Covers part) ts (ps.map Piece.written) := by
  induction h with
  | nil n => exact .nil
  | @cons n p m ps ts hm h ih =>
    obtain ⟨hp, hps⟩ := List.forall_mem_cons.1 hps
    exact .cons (Mark.covers_iff.2 ⟨p, hp, rfl, hm⟩) (ih hps)

/-- Pieces that are not empty have tokens one behind the other. -/
theorem increasing (h : Located n ps ts) (hps : ∀ p ∈ ps, p.Formed) :
    (∀ t ∈ ts, n ≤ t.position ∧ t.position < n + (ps.flatMap Piece.written).length) ∧
      ts.Pairwise (fun t u => t.position < u.position) := by
  induction h with
  | nil n => exact ⟨nofun, .nil⟩
  | @cons n p m ps ts hm h ih =>
    obtain ⟨hp, hps⟩ := List.forall_mem_cons.1 hps
    obtain ⟨hbounds, hpairs⟩ := ih hps
    have hpos : 0 < p.written.length := List.length_pos_iff.2 hp.written_ne_nil
    rw [List.flatMap_cons, List.length_append]
    refine ⟨List.forall_mem_cons.2 ⟨⟨Nat.le_refl n, by simp only; omega⟩, fun t ht => ?_⟩,
      .cons (fun t ht => ?_) hpairs⟩
    · have := hbounds t ht
      omega
    · have := hbounds t ht
      simp only
      omega

theorem cut_iff_delimited (h : Located n ps ts) (hps : ∀ p ∈ ps, p.Formed) :
    Piece.Cut ps ↔ Delimited ts := by
  induction h with
  | nil n => exact Iff.rfl
  | @cons n p m ps ts hm h ih =>
    obtain ⟨hp, hps⟩ := List.forall_mem_cons.1 hps
    cases h with
    | nil _ =>
      rw [Piece.Cut, Delimited, Mark.forall_text_iff hm]
      exact and_iff_right hp
    | cons hm' h =>
      rw [Piece.Cut, Delimited, Mark.forall_text_iff hm (fun t => _ ∧ Unpaired '{' t),
        Mark.isText_eq_false_iff hm', ih hps]
      simp only [unpaired_iff]
      exact and_iff_right hp

end Located

theorem start_le (h : ∀ t ∈ ts, t.position < source.length) : start source ts ≤ source.length := by
  cases ts with
  | nil => exact Nat.le_refl _
  | cons t ts => exact Nat.le_of_lt (h t List.mem_cons_self)

/-- Tokens that stand for their parts have pieces that take these up. -/
theorem exists_located (hincreasing : ts.Pairwise (fun t u => t.position < u.position))
    (hinside : ∀ t ∈ ts, t.position < source.length)
    (hcovers : List.Forall₂ (fun t part => t.mark.Covers part) ts (parts source ts)) :
    ∃ ps, Located (start source ts) ps ts ∧ (∀ p ∈ ps, p.Formed) ∧
      ps.map Piece.written = parts source ts := by
  induction ts with
  | nil => exact ⟨[], .nil _, nofun, rfl⟩
  | cons t ts ih =>
    obtain ⟨hnext, hincreasing⟩ := List.pairwise_cons.1 hincreasing
    obtain ⟨ht, hinside⟩ := List.forall_mem_cons.1 hinside
    obtain ⟨hcover, hcovers⟩ := List.forall₂_cons.1 hcovers
    obtain ⟨ps, hlocated, hps, hparts⟩ := ih hincreasing hinside hcovers
    obtain ⟨p, hp, hwritten, hm⟩ := Mark.covers_iff.1 hcover
    have hle : t.position ≤ start source ts := by
      cases ts with
      | nil => exact Nat.le_of_lt ht
      | cons u us => exact Nat.le_of_lt (hnext u List.mem_cons_self)
    have hend : t.position + p.written.length = start source ts := by
      have := start_le hinside
      rw [hwritten, List.length_drop, List.length_take]
      omega
    refine ⟨p :: ps, .cons hm ?_, List.forall_mem_cons.2 ⟨hp, hps⟩, ?_⟩
    · show Located (t.position + p.written.length) ps ts
      rw [hend]
      exact hlocated
    · rw [List.map_cons, hwritten, hparts, parts]

/-- **A source has the tokens that divide it** among them, and no others. -/
theorem ofSource_eq_ok_iff_partition (source : List Char) (ts : List Token) :
    ofSource source = .ok ts ↔ Partition source ts := by
  constructor
  · intro h
    have hlocated := ofSource_eq_ok_iff_located.1 h
    have hcut := cut_pieces source
    have hsource := flatMap_written_pieces source
    obtain ⟨hstart, hparts⟩ := hlocated.start_and_parts [] rfl
    obtain ⟨hbounds, hincreasing⟩ := hlocated.increasing hcut.formed
    rw [List.nil_append, hsource] at hstart hparts
    rw [hsource, Nat.zero_add] at hbounds
    exact {
      start_eq := hstart
      increasing := hincreasing
      inside := fun t ht => (hbounds t ht).2
      flatten := by rw [hparts, ← List.flatMap_def, hsource]
      covers := hparts ▸ hlocated.covers hcut.formed
      delimited := (hlocated.cut_iff_delimited hcut.formed).1 hcut }
  · intro h
    obtain ⟨ps, hlocated, hformed, hparts⟩ := exists_located h.increasing h.inside h.covers
    rw [h.start_eq] at hlocated
    have hsource : ps.flatMap Piece.written = source := by
      rw [List.flatMap_def, hparts, h.flatten]
    have hpieces : pieces source = ps :=
      pieces_eq_iff.2 ⟨hsource, (hlocated.cut_iff_delimited hformed).2 h.delimited⟩
    exact ofSource_eq_ok_iff_located.2 (hpieces ▸ hlocated)

-- of three braces the first two open a tag, and the first two close it
example : ofSource "\x7b\x7b\x7ba\x7d\x7d\x7d".toList =
    .ok [⟨.variable "\x7ba", 0⟩, ⟨.text "\x7d", 6⟩] := by
  rfl

end Token

end SiteTemplates
