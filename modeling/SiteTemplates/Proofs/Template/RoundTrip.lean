import Mathlib.Data.List.Chain
import SiteTemplates.Proofs.Template.Cut

/-!
# Reading undoes spelling

A tree that is spelled without loss is read back from its spelling, as it is
(`Node.ofSource_spelledAll`).

Each mark is read back from its own piece of source (`Mark.Readable`).  Pieces that make no pairs of
braces, of which no two texts touch, are the pieces of the source that they make up
(`pieces_flatMap_written`), for they are cut as the pieces of a source are.  So marks that are read
back, of which no two texts touch, are the marks of the source that they make up (`Mark.Spell`), and
marks of tags can be put before and behind them.  A tree has a derivation with such marks
(`Node.phrase`), which stands for the tree.
-/

namespace SiteTemplates

open Text

/-! ### Pieces -/

namespace Piece

/-- A piece that is found as it is between others: a text without opening braces, or a tag without
closing ones, also together with a brace that follows. -/
def Proper : Piece → Prop
  | .text s => s ≠ [] ∧ Unpaired '{' s
  | .tag content => Unpaired '}' content

def Apart (p q : Piece) : Prop := p.isText = true → q.isText = false

theorem Proper.formed {p : Piece} (h : p.Proper) : p.Formed := by
  cases p with
  | text t => exact h.1
  | tag content => exact h

theorem cut_of_proper {ps : List Piece} (h : ∀ p ∈ ps, p.Proper) (ha : ps.IsChain Apart) :
    Cut ps := by
  induction ps with
  | nil => trivial
  | cons p ps ih =>
    obtain ⟨hp, hps⟩ := List.forall_mem_cons.1 h
    obtain ⟨hnext, hchain⟩ := List.isChain_cons.1 ha
    cases ps with
    | nil =>
      refine ⟨hp.formed, ?_⟩
      rintro t rfl
      exact not_hasTag_of_unpaired hp.2
    | cons q ps =>
      refine ⟨hp.formed, ?_, ih hps hchain⟩
      rintro t rfl
      exact ⟨hnext q rfl rfl, hp.2⟩

end Piece

/-- **Pieces are found again** in the source that they make up. -/
theorem pieces_flatMap_written {ps : List Piece} (hp : ∀ p ∈ ps, p.Proper)
    (ha : ps.IsChain Piece.Apart) : pieces (ps.flatMap Piece.written) = ps :=
  pieces_of_cut (Piece.cut_of_proper hp ha)

/-! ### Marks -/

theorem Keyword.plain_word (keyword : Keyword) : Plain keyword.word := by
  cases keyword <;> decide

namespace Mark

def piece : Mark → Piece
  | .text s => .text s.toList
  | .variable written => .tag written.toList
  | .part name => .tag ('>' :: ' ' :: name.toList)
  | .opening keyword argument => .tag ('#' :: (keyword.word.toList ++ ' ' :: argument.toList))
  | .closing word => .tag ('/' :: word.toList)
  | .otherwise => .tag "else".toList

def spelledAll (ms : List Mark) : List Char := (ms.map piece).flatMap Piece.written

theorem spelledAll_nil : spelledAll [] = [] := rfl

theorem spelledAll_cons (m : Mark) (ms : List Mark) :
    spelledAll (m :: ms) = m.piece.written ++ spelledAll ms := by
  rw [spelledAll, List.map_cons, List.flatMap_cons]
  rfl

theorem spelledAll_append (ms ms' : List Mark) :
    spelledAll (ms ++ ms') = spelledAll ms ++ spelledAll ms' := by
  rw [spelledAll, List.map_append, List.flatMap_append]
  rfl

/-- A mark is read back from its piece, and the piece is found between others. -/
structure Readable (m : Mark) : Prop where
  ofPiece_piece : ofPiece m.piece = .ok m
  proper : m.piece.Proper

theorem readable_text {s : String} (hne : s.toList ≠ []) (hpair : ¬ HasPair '{' s.toList)
    (hlast : s.toList.getLast? ≠ some '{') : (Mark.text s).Readable where
  ofPiece_piece := by rw [piece, ofPiece, String.ofList_toList]
  proper := ⟨hne, not_hasPair_concat hpair hlast⟩

theorem readable_variable {e : Expression} (h : e.Spellable) :
    (Mark.variable (String.ofList e.spelled)).Readable := by
  obtain ⟨c, rest, hpath⟩ := List.exists_cons_of_ne_nil h.1.1
  have hmark : c ∉ ['#', '/', '>'] := by simpa [hpath] using h.2.2.1
  have hspelled : ∃ rest', e.spelled = c :: rest' := ⟨_, by rw [Expression.spelled, hpath]; rfl⟩
  obtain ⟨rest', hspelled⟩ := hspelled
  refine ⟨?_, ?_⟩
  · rw [piece, ofPiece, String.toList_ofList, trim_of_unblank h.unblankFirst h.unblankLast,
      hspelled]
    exact ofContent_eq_ok_iff.2 (.variable hmark (hspelled ▸ h.spelled_ne_else))
  · rw [piece, String.toList_ofList]
    exact h.unpaired

theorem readable_part {name : String} (h : Plain name) : (Mark.part name).Readable := by
  obtain ⟨c, rest, hname⟩ := List.exists_cons_of_ne_nil h.1
  have hcontent : trim ('>' :: ' ' :: name.toList) = '>' :: ' ' :: name.toList :=
    trim_of_unblank (unblankFirst_cons (by decide) _) ((h.unblankLast.cons ' ').cons '>')
  have hread : unquote (trim (' ' :: name.toList)) = c :: rest := by
    rw [trim, trimStart_cons_of_blank (by decide), ← trim, h.trim_eq, unquote_of_forall h.not_quote,
      hname]
  have hbrace : '}' ∉ name.toList := h.not_mem (by simp)
  refine ⟨?_, unpaired_of_not_mem (by simpa using hbrace)⟩
  rw [piece, ofPiece, hcontent, ofContent, ofPart, hread]
  simp only [← hname, String.ofList_toList]

theorem readable_opening (keyword : Keyword) {name : String} (h : Plain name) :
    (Mark.opening keyword name).Readable := by
  have hword := keyword.plain_word
  have hlast : UnblankLast (keyword.word.toList ++ ' ' :: name.toList) :=
    (h.unblankLast.cons ' ').append _
  have hcontent : trim ('#' :: (keyword.word.toList ++ ' ' :: name.toList)) =
      '#' :: (keyword.word.toList ++ ' ' :: name.toList) :=
    trim_of_unblank (unblankFirst_cons (by decide) _) (hlast.cons '#')
  have hbody : trim (keyword.word.toList ++ ' ' :: name.toList) =
      keyword.word.toList ++ ' ' :: name.toList :=
    trim_of_unblank (hword.unblankFirst.append _) hlast
  have hbrace : '}' ∉ keyword.word.toList ∧ '}' ∉ name.toList :=
    ⟨hword.not_mem (by simp), h.not_mem (by simp)⟩
  refine ⟨?_, unpaired_of_not_mem (by simpa using hbrace)⟩
  have hnames := Names.opening hbody
  rw [h.trim_eq, String.ofList_toList] at hnames
  rw [piece, ofPiece, hcontent]
  exact ofContent_eq_ok_iff.2 hnames

theorem readable_closing (keyword : Keyword) : (Mark.closing keyword.word).Readable := by
  have hword := keyword.plain_word
  have hcontent : trim ('/' :: keyword.word.toList) = '/' :: keyword.word.toList :=
    trim_of_unblank (unblankFirst_cons (by decide) _) (hword.unblankLast.cons '/')
  have hbrace : '}' ∉ keyword.word.toList := hword.not_mem (by simp)
  refine ⟨?_, unpaired_of_not_mem (by simpa using hbrace)⟩
  rw [piece, ofPiece, hcontent, ofContent, hword.trim_eq, String.ofList_toList]

theorem readable_otherwise : Mark.otherwise.Readable :=
  ⟨by decide, unpaired_of_not_mem (by decide)⟩

theorem exists_of_isText {m : Mark} (h : m.piece.isText = true) : ∃ s, m = .text s := by
  cases m with
  | text s => exact ⟨s, rfl⟩
  | _ => cases h

def Apart (m m' : Mark) : Prop := m.piece.Apart m'.piece

/-- Marks that are read back from the source that they make up. -/
structure Spell (ms : List Mark) (s : List Char) : Prop where
  readable : ∀ m ∈ ms, m.Readable
  apart : ms.IsChain Apart
  spelledAll_eq : spelledAll ms = s

namespace Spell

variable {m : Mark} {ms ms' : List Mark} {s t : List Char}

theorem nil : Spell [] [] := ⟨nofun, List.IsChain.nil, rfl⟩

theorem singleton (hm : m.Readable) : Spell [m] m.piece.written where
  readable := List.forall_mem_singleton.2 hm
  apart := List.IsChain.singleton m
  spelledAll_eq := by rw [spelledAll_cons, spelledAll_nil, List.append_nil]

theorem append (h : Spell ms s) (h' : Spell ms' t)
    (hseam : ∀ m ∈ ms.getLast?, ∀ m' ∈ ms'.head?, Apart m m') : Spell (ms ++ ms') (s ++ t) where
  readable := fun m hm => (List.mem_append.1 hm).elim (h.readable m) (h'.readable m)
  apart := List.isChain_append.2 ⟨h.apart, h'.apart, hseam⟩
  spelledAll_eq := by rw [spelledAll_append, h.spelledAll_eq, h'.spelledAll_eq]

/-- A mark that is no text can stand before any marks. -/
theorem cons (hm : m.Readable) (htag : m.piece.isText = false) (h : Spell ms t) :
    Spell (m :: ms) (m.piece.written ++ t) := by
  refine (singleton hm).append h fun x hx y _ htext => ?_
  rw [List.getLast?_singleton, Option.mem_some_iff] at hx
  rw [← hx, htag] at htext
  cases htext

/-- Marks that do not begin with text can stand behind any marks. -/
theorem append_cons (h : Spell ms s) (htag : m.piece.isText = false)
    (h' : Spell (m :: ms') t) : Spell (ms ++ m :: ms') (s ++ t) := by
  refine h.append h' fun x _ y hy _ => ?_
  rw [List.head?_cons, Option.mem_some_iff] at hy
  rw [← hy, htag]

/-- The marks are those of the source. -/
theorem haveMarks (h : Spell ms s) : HaveMarks (pieces s) ms := by
  have hproper : ∀ p ∈ ms.map piece, p.Proper := by
    intro p hp
    obtain ⟨m, hm, rfl⟩ := List.mem_map.1 hp
    exact (h.readable m hm).proper
  have hpieces : pieces s = ms.map piece := by
    rw [← h.spelledAll_eq]
    exact pieces_flatMap_written hproper ((List.isChain_map piece).2 h.apart)
  rw [HaveMarks, hpieces, List.map_map]
  exact List.map_congr_left fun m hm => (h.readable m hm).ofPiece_piece

end Spell

end Mark

/-! ### Bodies -/

namespace Phrase

theorem eq_text_of_mem_getLast? {p : Phrase} {s : String} (h : .text s ∈ p.marks.getLast?) :
    p = .text s := by
  obtain ⟨ms, m, hmarks, htext⟩ := exists_marks_eq_concat p
  rw [hmarks, List.getLast?_concat, Option.mem_some_iff] at h
  exact (htext s h).2

theorem mem_head?_of_text {ps : List Phrase} {s : String}
    (h : .text s ∈ (marksAll ps).head?) : .text s ∈ ps.head? := by
  cases ps with
  | nil => cases h
  | cons p ps =>
    obtain ⟨ms, hms⟩ := List.head?_eq_some_iff.1 h
    rw [(eq_of_marks_append_eq hms).1]
    rfl

theorem marksAll_singleton (p : Phrase) : marksAll [p] = p.marks := by
  rw [marksAll, marksAll, List.append_nil]

/-- A body inside `depth` blocks that keeps the side conditions, and a source that is made up of its
marks and has no others. -/
structure Spells (maxDepth : Int) (depth : Nat) (ps : List Phrase) (s : List Char) : Prop where
  fits : FitsAll maxDepth depth ps
  spell : Mark.Spell (marksAll ps) s

namespace Spells

variable {maxDepth : Int} {depth : Nat} {p : Phrase} {ps qs : List Phrase} {s t : List Char}
  {name : String}

theorem nil : Spells maxDepth depth [] [] := ⟨trivial, .nil⟩

theorem of_mark {m : Mark} (hp : p.marks = [m]) (hfits : p.Fits maxDepth depth)
    (hm : m.Readable) : Spells maxDepth depth [p] m.piece.written := by
  refine ⟨⟨hfits, trivial⟩, ?_⟩
  rw [marksAll_singleton, hp]
  exact .singleton hm

theorem of_expression {e : Expression} (h : e.Spellable) :
    Spells maxDepth depth [.variable (String.ofList e.spelled) e] (tagged e.spelled) := by
  have hread : Expression.ofText (String.ofList e.spelled).toList = .ok e := by
    rw [String.toList_ofList, h.ofText_spelled]
  have hpiece : (Mark.variable (String.ofList e.spelled)).piece = .tag e.spelled := by
    rw [Mark.piece, String.toList_ofList]
  have hspells : Spells maxDepth depth [.variable (String.ofList e.spelled) e]
      (Mark.variable (String.ofList e.spelled)).piece.written :=
    of_mark rfl hread (Mark.readable_variable h)
  rwa [hpiece] at hspells

/-- A phrase before a body spells its source before that of the body, unless two texts touch. -/
theorem cons (hp : Spells maxDepth depth [p] s) (hps : Spells maxDepth depth ps t)
    (htext : ∀ a, p = .text a → ∀ b, .text b ∉ ps.head?) :
    Spells maxDepth depth (p :: ps) (s ++ t) := by
  refine ⟨⟨hp.fits.1, hps.fits⟩, ?_⟩
  have hmarks : marksAll (p :: ps) = marksAll [p] ++ marksAll ps := marksAll_append [p] ps
  rw [hmarks]
  refine hp.spell.append hps.spell fun m hm m' hm' ht => Bool.eq_false_iff.2 fun ht' => ?_
  obtain ⟨a, rfl⟩ := Mark.exists_of_isText ht
  obtain ⟨b, rfl⟩ := Mark.exists_of_isText ht'
  rw [marksAll_singleton] at hm
  exact htext a (eq_text_of_mem_getLast? hm) b (mem_head?_of_text hm')

theorem block (keyword : Keyword) (hname : Plain name) (hd : (depth + 1 : Int) ≤ maxDepth)
    (h : Spells maxDepth (depth + 1) ps s) : Spells maxDepth depth [.block keyword name ps]
      (keyword.opening name ++ (s ++ keyword.closing)) := by
  refine ⟨⟨⟨hd, hname.unquote_ne_nil, h.fits⟩, trivial⟩, ?_⟩
  have hclosing : Mark.Spell [.closing keyword.word] keyword.closing :=
    .singleton (Mark.readable_closing keyword)
  rw [marksAll_singleton, marks]
  exact (h.spell.append_cons rfl hclosing).cons (Mark.readable_opening keyword hname) rfl

theorem divided {keyword : Keyword} (hk : Divisible keyword) (hname : Plain name)
    (hd : (depth + 1 : Int) ≤ maxDepth) (h : Spells maxDepth (depth + 1) ps s)
    (h' : Spells maxDepth (depth + 1) qs t) : Spells maxDepth depth [.divided keyword name ps qs]
      (keyword.opening name ++ (s ++ (tagged "else".toList ++ (t ++ keyword.closing)))) := by
  refine ⟨⟨⟨hk, hd, hname.unquote_ne_nil, h.fits, h'.fits⟩, trivial⟩, ?_⟩
  have hclosing : Mark.Spell [.closing keyword.word] keyword.closing :=
    .singleton (Mark.readable_closing keyword)
  have hsecond := (h'.spell.append_cons rfl hclosing).cons Mark.readable_otherwise rfl
  rw [marksAll_singleton, marks]
  exact (h.spell.append_cons rfl hsecond).cons (Mark.readable_opening keyword hname) rfl

/-- A source that a body spells is read as its nodes. -/
theorem ofSource_eq (h : Spells maxDepth 0 ps s) : Node.ofSource s maxDepth = .ok (nodes ps) :=
  Node.ofSource_of_body h.fits h.spell.haveMarks

end Spells

end Phrase

/-! ### Trees -/

theorem Keyword.divisible_ofConditional (negated : Bool) :
    Phrase.Divisible (ofConditional negated) := by
  cases negated
  · exact Or.inl rfl
  · exact Or.inr rfl

theorem Phrase.node_block_ofConditional (negated : Bool) (name : String) (ps : List Phrase) :
    (Phrase.block (.ofConditional negated) name ps).node =
      .conditional (named name) negated (nodes ps) [] := by
  cases negated <;> rfl

theorem Phrase.node_divided_ofConditional (negated : Bool) (name : String) (ps qs : List Phrase) :
    (Phrase.divided (.ofConditional negated) name ps qs).node =
      .conditional (named name) negated (nodes ps) (nodes qs) := by
  cases negated <;> rfl

namespace Node

mutual

def phrase : Node → Phrase
  | .text s => .text s
  | .variable e => .variable (String.ofList e.spelled) e
  | .part name => .part name
  | .conditional path negated body [] => .block (.ofConditional negated) path (phrases body)
  | .conditional path negated body (n :: alternative) =>
    .divided (.ofConditional negated) path (phrases body) (n.phrase :: phrases alternative)
  | .each path body => .block .each path (phrases body)
  | .block name body => .block .block name (phrases body)
  | .layout name fillings => .block .layout name (fillingPhrases fillings)

def phrases : List Node → List Phrase
  | [] => []
  | n :: rest => n.phrase :: phrases rest

def fillingPhrases : List (String × List Node) → List Phrase
  | [] => []
  | (name, body) :: rest => .block .block name (phrases body) :: fillingPhrases rest

end

variable {maxDepth : Int}

mutual

/-- The derivation of a node stands for the node. -/
theorem node_phrase : ∀ (n : Node) {depth : Nat}, n.Spellable maxDepth depth → n.phrase.node = n
  | .text s, _, _ => rfl
  | .variable e, _, _ => rfl
  | .part name, _, _ => rfl
  | .conditional path negated body [], _, h => by
    rw [phrase, Phrase.node_block_ofConditional, h.1.1.named_eq, nodes_phrases body h.2.1]
  | .conditional path negated body (n :: alternative), _, h => by
    rw [phrase, Phrase.node_divided_ofConditional, h.1.1.named_eq, nodes_phrases body h.2.1,
      Phrase.nodes, node_phrase n h.2.2.1, nodes_phrases alternative h.2.2.2.2]
  | .each path body, _, h => by
    rw [phrase, Phrase.node, h.1.1.named_eq, nodes_phrases body h.2]
  | .block name body, _, h => by
    rw [phrase, Phrase.node, h.1.1.named_eq, nodes_phrases body h.2]
  | .layout name fillings, _, h => by
    rw [phrase, Phrase.node, h.1.1.named_eq, fillings_fillingPhrases fillings h.2]

/-- The derivations of nodes stand for the nodes. -/
theorem nodes_phrases : ∀ (ns : List Node) {depth : Nat}, SpellableAll maxDepth depth ns →
    Phrase.nodes (phrases ns) = ns
  | [], _, _ => rfl
  | n :: rest, _, h => by
    rw [phrases, Phrase.nodes, node_phrase n h.1, nodes_phrases rest h.2.2]

/-- The derivations of the blocks in a layout stand for these. -/
theorem fillings_fillingPhrases : ∀ (fs : List (String × List Node)) {depth : Nat},
    SpellableFillings maxDepth depth fs → Phrase.fillings (fillingPhrases fs) = fs
  | [], _, _ => rfl
  | (name, body) :: rest, _, h => by
    rw [fillingPhrases, Phrase.fillings, Phrase.filling, h.1.1.1.named_eq,
      nodes_phrases body h.1.2, fillings_fillingPhrases rest h.2]
    rfl

end

theorem isText_of_phrase {n : Node} {s : String} (h : n.phrase = .text s) : n.isText = true := by
  cases n with
  | text s' => rfl
  | conditional path negated body alternative => cases alternative <;> cases h
  | _ => cases h

theorem phrases_text_notMem_head {ns : List Node} (h : ∀ m ∈ ns.head?, m.isText = false)
    (s : String) : .text s ∉ (phrases ns).head? := by
  intro hs
  cases ns with
  | nil => cases hs
  | cons n ns =>
    have hn : n.isText = true := isText_of_phrase (Option.some.inj hs)
    rw [h n rfl] at hn
    cases hn

mutual

/-- The derivation of a node spells it. -/
theorem spells_phrase : ∀ (n : Node) {depth : Nat}, n.Spellable maxDepth depth →
    Phrase.Spells maxDepth depth [n.phrase] n.spelled
  | .text s, _, h =>
    .of_mark (p := .text s) (m := .text s) rfl trivial (Mark.readable_text h.1 h.2.1 h.2.2)
  | .variable e, _, h => .of_expression h
  | .part name, _, h =>
    .of_mark (p := .part name) (m := .part name) rfl trivial (Mark.readable_part h)
  | .conditional path negated body [], _, h =>
    .block (.ofConditional negated) h.1.1 h.1.2 (spells_phrases body h.2.1)
  | .conditional path negated body (n :: alternative), _, h => by
    have halternative : Phrase.Spells maxDepth _ (phrases (n :: alternative))
        (n.spelled ++ spelledAll alternative) :=
      .cons (spells_phrase n h.2.2.1) (spells_phrases alternative h.2.2.2.2)
        fun a ha => phrases_text_notMem_head (h.2.2.2.1 (isText_of_phrase ha))
    have hs := Phrase.Spells.divided (Keyword.divisible_ofConditional negated) h.1.1 h.1.2
      (spells_phrases body h.2.1) halternative
    rwa [List.append_assoc] at hs
  | .each path body, _, h => .block .each h.1.1 h.1.2 (spells_phrases body h.2)
  | .block name body, _, h => .block .block h.1.1 h.1.2 (spells_phrases body h.2)
  | .layout name fillings, _, h =>
    .block .layout h.1.1 h.1.2 (spells_fillingPhrases fillings h.2)

/-- The derivations of nodes spell them. -/
theorem spells_phrases : ∀ (ns : List Node) {depth : Nat}, SpellableAll maxDepth depth ns →
    Phrase.Spells maxDepth depth (phrases ns) (spelledAll ns)
  | [], _, _ => .nil
  | n :: rest, _, h => .cons (spells_phrase n h.1) (spells_phrases rest h.2.2)
      fun _ ha => phrases_text_notMem_head (h.2.1 (isText_of_phrase ha))

/-- The derivations of the blocks in a layout spell them. -/
theorem spells_fillingPhrases : ∀ (fs : List (String × List Node)) {depth : Nat},
    SpellableFillings maxDepth depth fs →
    Phrase.Spells maxDepth depth (fillingPhrases fs) (spelledFillings fs)
  | [], _, _ => .nil
  | (_, body) :: rest, _, h =>
    .cons (.block .block h.1.1.1 h.1.1.2 (spells_phrases body h.1.2))
      (spells_fillingPhrases rest h.2) nofun

end

/-- **Reading undoes spelling.**  A tree that is spelled without loss, with blocks nested as deep as
they may be, is read back from its spelling. -/
theorem ofSource_spelledAll {ns : List Node} (h : SpellableAll maxDepth 0 ns) :
    ofSource (spelledAll ns) maxDepth = .ok ns := by
  rw [(spells_phrases ns h).ofSource_eq, nodes_phrases ns h]

/-- A name with a filter whose arguments hold every mark of expressions, and quotes. -/
def quotedName : Expression :=
  ⟨"user.name", [⟨"default", ["a|b: \x7bc\x7d,\n", "\"x\""]⟩, ⟨"upper", []⟩]⟩

/-- A page in a layout, with a conditional inside a block. -/
def quotedPage : List Node :=
  [.layout "base" [("main", [.text "Hi, ", .variable quotedName,
    .conditional "user.new" true [.part "card"] [.text "\x7dWelcome!"]])]]

example : String.ofList (spelledAll quotedPage) =
    "\x7b\x7b#extends base\x7d\x7d\x7b\x7b#block main\x7d\x7dHi, " ++
      "\x7b\x7buser.name|default:\"a|b: \x7bc\x7d,\n\",'\"x\"'|upper\x7d\x7d" ++
      "\x7b\x7b#unless user.new\x7d\x7d\x7b\x7b> card\x7d\x7d" ++
      "\x7b\x7belse\x7d\x7d\x7dWelcome!\x7b\x7b/unless\x7d\x7d" ++
      "\x7b\x7b/block\x7d\x7d\x7b\x7b/extends\x7d\x7d" := by
  cbv

theorem ofSource_spelledAll_quotedPage :
    SpellableAll 3 0 quotedPage ∧ ofSource (spelledAll quotedPage) 3 = .ok quotedPage :=
  have hname : quotedName.Spellable := by decide
  have hcard : Plain "card" := by decide
  have hhi : Spellable 3 2 (.text "Hi, ") := ⟨by decide, by decide, by decide⟩
  have hwelcome : Spellable 3 3 (.text "\x7dWelcome!") := ⟨by decide, by decide, by decide⟩
  have hconditional :
      Spellable 3 2 (.conditional "user.new" true [.part "card"] [.text "\x7dWelcome!"]) :=
    ⟨⟨by decide, by decide⟩, ⟨hcard, nofun, trivial⟩, ⟨hwelcome, nofun, trivial⟩⟩
  have hmain : SpellableFillings 3 1 [("main", [.text "Hi, ", .variable quotedName,
      .conditional "user.new" true [.part "card"] [.text "\x7dWelcome!"]])] :=
    ⟨⟨⟨by decide, by decide⟩, ⟨hhi, fun _ _ hm => Option.some.inj hm ▸ rfl,
      ⟨hname, nofun, ⟨hconditional, nofun, trivial⟩⟩⟩⟩, trivial⟩
  have h : SpellableAll 3 0 quotedPage := ⟨⟨⟨by decide, by decide⟩, hmain⟩, nofun, trivial⟩
  ⟨h, ofSource_spelledAll h⟩

end Node

end SiteTemplates
