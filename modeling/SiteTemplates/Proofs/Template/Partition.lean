import SiteTemplates.Template.Token

/-!
# The partition of a source

`pieces` reads a source one character at a time.  This file says what comes of it, without the
state of the reading: `pieces_append_tag` takes off the text up to the first `{{` together with the
tag up to the first `}}` after it, `pieces_of_no_tag` is for a source in which no tag is complete,
and by `exists_tag_of_hasTag` every source is of one of the two forms.  `partition_induction` is the
induction that goes with them.

"The first `{{`" is said without an order on places: the text before it, with one brace more, holds
no pair of braces.  That excludes a pair in the text as well as a text that ends in a brace.

The tokens of a source are its pieces, each with what it is and where it stands (`Token.Located`).
-/

namespace SiteTemplates

/-! ### Pairs of characters -/

/-- The character stands twice in a row somewhere. -/
def HasPair (c : Char) (s : List Char) : Prop := [c, c] <:+: s

theorem hasPair_append (c : Char) (a b : List Char) : HasPair c (a ++ c :: c :: b) :=
  ⟨a, b, by simp⟩

theorem HasPair.mono {c : Char} {s t : List Char} (h : HasPair c s) (hst : s <:+: t) :
    HasPair c t := List.IsInfix.trans h hst

theorem hasPair_cons {c x : Char} {s : List Char} :
    HasPair c (x :: s) ↔ (x = c ∧ s.head? = some c) ∨ HasPair c s := by
  rw [HasPair, List.infix_cons_iff]
  refine or_congr ?_ Iff.rfl
  cases s <;> simp [List.cons_prefix_cons, eq_comm]

theorem not_hasPair_singleton (c x : Char) : ¬ HasPair c [x] := by
  intro h
  exact absurd (List.IsInfix.length_le h) (by simp)

/-- The part of a text up to a pair of characters, and the rest. -/
theorem HasPair.exists_first {c : Char} {s : List Char} (h : HasPair c s) :
    ∃ a b, s = a ++ c :: c :: b ∧ ¬ HasPair c (a ++ [c]) := by
  induction s with
  | nil => simp [HasPair] at h
  | cons x s ih =>
    by_cases hx : x = c ∧ s.head? = some c
    · obtain ⟨rfl, hs⟩ := hx
      obtain ⟨b, rfl⟩ := List.head?_eq_some_iff.1 hs
      exact ⟨[], b, rfl, not_hasPair_singleton _ _⟩
    · obtain ⟨a, b, rfl, ha⟩ := ih ((hasPair_cons.1 h).resolve_left hx)
      refine ⟨x :: a, b, rfl, fun hp => ?_⟩
      rw [List.cons_append, hasPair_cons] at hp
      refine hp.elim (fun h => hx ⟨h.1, ?_⟩) ha
      cases a <;> simp_all

/-- Of two pairs in a text, the later one is followed by less. -/
theorem suffix_of_first {c : Char} {a b a' b' : List Char} (ha : ¬ HasPair c (a ++ [c]))
    (h : a ++ c :: c :: b = a' ++ c :: c :: b') : b' <:+ b := by
  have hlen := congrArg List.length h
  simp only [List.length_append, List.length_cons] at hlen
  have hle : a.length ≤ a'.length := by
    refine Nat.not_lt.1 fun hlt => ha ?_
    have hp : a' ++ [c, c] <+: a ++ c :: c :: b := ⟨b', by simp [h]⟩
    have hq : a ++ [c] <+: a ++ c :: c :: b := ⟨c :: b, by simp⟩
    have hpq := List.prefix_of_prefix_length_le hp hq
      (by simp only [List.length_append, List.length_cons, List.length_nil]; omega)
    exact HasPair.mono (hasPair_append c a' []) hpq.isInfix
  have hb : b <:+ a ++ c :: c :: b := ⟨a ++ [c, c], by simp⟩
  have hb' : b' <:+ a ++ c :: c :: b := ⟨a' ++ [c, c], by simp [h]⟩
  exact List.suffix_of_suffix_length_le hb' hb (by omega)

/-- The source holds a complete tag: a pair of opening braces and a pair of closing ones later. -/
def HasTag (s : List Char) : Prop := ∃ a b, s = a ++ '{' :: '{' :: b ∧ HasPair '}' b

/-- **Every source is plain or starts with a text and a tag.** -/
theorem exists_tag_of_hasTag {s : List Char} (h : HasTag s) :
    ∃ text content rest, s = text ++ '{' :: '{' :: (content ++ '}' :: '}' :: rest) ∧
      ¬ HasPair '{' (text ++ ['{']) ∧ ¬ HasPair '}' (content ++ ['}']) := by
  obtain ⟨a, b, rfl, hb⟩ := h
  obtain ⟨text, after, hs, htext⟩ := HasPair.exists_first (hasPair_append '{' a b)
  -- the first pair is not behind the given one, so what follows it holds the closing pair too
  have hafter : HasPair '}' after := hb.mono (suffix_of_first htext hs.symm).isInfix
  obtain ⟨content, rest, rfl, hcontent⟩ := hafter.exists_first
  exact ⟨text, content, rest, hs, htext, hcontent⟩

namespace Piece

/-! ### Reading text and tags -/

def ofText (s : List Char) : List Piece := if s = [] then [] else [.text s]

theorem flush_reverse (t : List Char) (done : List Piece) :
    (flush t done).reverse = done.reverse ++ ofText t.reverse := by
  cases t <;> simp [flush, ofText]

variable {done : List Piece} {t content : List Char}

theorem read_text {c : Char} (h : ¬ HasPair '{' (t.reverse ++ [c])) :
    Scan.read ⟨done, t, none⟩ c = ⟨done, c :: t, none⟩ := by
  cases t with
  | nil => simp [Scan.read]
  | cons x t =>
    have hx : ¬ (x = '{' ∧ c = '{') := by
      rintro ⟨rfl, rfl⟩
      exact h (by simpa using hasPair_append '{' t.reverse [])
    simp only [Scan.read]
    split
    · rename_i hcons
      rw [if_neg fun hc => hx ⟨(List.cons.inj hcons).1, hc⟩]
    · rfl

theorem read_content {c : Char} (h : ¬ HasPair '}' (content.reverse ++ [c])) :
    Scan.read ⟨done, t, some content⟩ c = ⟨done, t, some (c :: content)⟩ := by
  cases content with
  | nil => simp [Scan.read]
  | cons x content =>
    have hx : ¬ (x = '}' ∧ c = '}') := by
      rintro ⟨rfl, rfl⟩
      exact h (by simpa using hasPair_append '}' content.reverse [])
    simp only [Scan.read]
    split
    · rename_i hcons
      rw [if_neg fun hc => hx ⟨(List.cons.inj hcons).1, hc⟩]
    · rfl

theorem foldl_read_text (s : List Char) (h : ¬ HasPair '{' (t.reverse ++ s)) :
    s.foldl Scan.read ⟨done, t, none⟩ = ⟨done, s.reverse ++ t, none⟩ := by
  induction s generalizing t with
  | nil => rfl
  | cons c s ih =>
    rw [List.foldl_cons, read_text fun hp => h (hp.mono ⟨[], s, by simp⟩), ih (by simpa using h)]
    simp

theorem foldl_read_content (s : List Char) (h : ¬ HasPair '}' (content.reverse ++ s)) :
    s.foldl Scan.read ⟨done, t, some content⟩ = ⟨done, t, some (s.reverse ++ content)⟩ := by
  induction s generalizing content with
  | nil => rfl
  | cons c s ih =>
    rw [List.foldl_cons, read_content fun hp => h (hp.mono ⟨[], s, by simp⟩),
      ih (by simpa using h)]
    simp

/-- Reading a text up to a tag and the braces that open it. -/
theorem foldl_read_opening (s : List Char) (h : ¬ HasPair '{' (s ++ ['{'])) :
    (s ++ ['{', '{']).foldl Scan.read ⟨done, [], none⟩ = ⟨done, s.reverse, some []⟩ := by
  have h' : ¬ HasPair '{' ([].reverse ++ (s ++ ['{'])) := h
  rw [show s ++ ['{', '{'] = (s ++ ['{']) ++ ['{'] by simp, List.foldl_append,
    foldl_read_text (s ++ ['{']) h']
  simp [Scan.read]

/-- Reading the content of a tag and the braces that close it. -/
theorem foldl_read_closing (s : List Char) (h : ¬ HasPair '}' (s ++ ['}'])) :
    (s ++ ['}', '}']).foldl Scan.read ⟨done, t, some []⟩ =
      ⟨.tag s :: flush t done, [], none⟩ := by
  have h' : ¬ HasPair '}' ([].reverse ++ (s ++ ['}'])) := h
  rw [show s ++ ['}', '}'] = (s ++ ['}']) ++ ['}'] by simp, List.foldl_append,
    foldl_read_content (s ++ ['}']) h']
  simp [Scan.read]

/-! ### What is complete is left alone -/

def Scan.after (s : Scan) (earlier : List Piece) : Scan := { s with done := s.done ++ earlier }

theorem flush_append (t : List Char) (done earlier : List Piece) :
    flush t (done ++ earlier) = flush t done ++ earlier := by
  cases t <;> simp [flush]

theorem Scan.read_after (s : Scan) (earlier : List Piece) (c : Char) :
    (s.after earlier).read c = (s.read c).after earlier := by
  obtain ⟨done, t, tag⟩ := s
  simp only [Scan.after, Scan.read]
  split
  · split
    · split <;> rfl
    · rfl
  · split
    · split <;> simp [flush_append]
    · rfl

theorem foldl_read_after (cs : List Char) (s : Scan) (earlier : List Piece) :
    cs.foldl Scan.read (s.after earlier) = (cs.foldl Scan.read s).after earlier := by
  induction cs generalizing s with
  | nil => rfl
  | cons c cs ih => rw [List.foldl_cons, List.foldl_cons, Scan.read_after, ih]

theorem Scan.finish_after (s : Scan) (earlier : List Piece) :
    (s.after earlier).finish = earlier.reverse ++ s.finish := by
  obtain ⟨done, t, tag⟩ := s
  cases tag <;> simp [Scan.after, Scan.finish, flush_append]

end Piece

/-! ### The pieces -/

/-- **The first tag of a source** with the text before it are its first pieces. -/
theorem pieces_append_tag {text content : List Char} (rest : List Char)
    (ht : ¬ HasPair '{' (text ++ ['{'])) (hc : ¬ HasPair '}' (content ++ ['}'])) :
    pieces (text ++ '{' :: '{' :: (content ++ '}' :: '}' :: rest)) =
      Piece.ofText text ++ .tag content :: pieces rest := by
  have hsplit : text ++ '{' :: '{' :: (content ++ '}' :: '}' :: rest) =
      (text ++ ['{', '{']) ++ ((content ++ ['}', '}']) ++ rest) := by simp
  have hstart : (⟨.tag content :: Piece.flush text.reverse [], [], none⟩ : Piece.Scan) =
      Piece.Scan.after {} (.tag content :: Piece.flush text.reverse []) := rfl
  rw [pieces, hsplit, List.foldl_append, Piece.foldl_read_opening text ht, List.foldl_append,
    Piece.foldl_read_closing content hc, hstart, Piece.foldl_read_after, Piece.Scan.finish_after,
    List.reverse_cons, Piece.flush_reverse]
  simp [pieces]

/-- A source without a complete tag is a text. -/
theorem pieces_of_no_tag {s : List Char} (h : ¬ HasTag s) : pieces s = Piece.ofText s := by
  by_cases hp : HasPair '{' s
  · obtain ⟨text, rest, rfl, ht⟩ := hp.exists_first
    have hrest : ¬ HasPair '}' rest := fun hr => h ⟨text, rest, rfl, hr⟩
    rw [pieces, show text ++ '{' :: '{' :: rest = (text ++ ['{', '{']) ++ rest by simp,
      List.foldl_append, Piece.foldl_read_opening text ht,
      Piece.foldl_read_content rest (by simpa using hrest)]
    simp [Piece.Scan.finish, Piece.flush_reverse]
  · rw [pieces, Piece.foldl_read_text s (by simpa using hp)]
    simp [Piece.Scan.finish, Piece.flush_reverse]

/-- Induction over a source, one tag at a time. -/
theorem partition_induction {P : List Char → Prop} (plain : ∀ s, ¬ HasTag s → P s)
    (tag : ∀ text content rest, ¬ HasPair '{' (text ++ ['{']) → ¬ HasPair '}' (content ++ ['}']) →
      P rest → P (text ++ '{' :: '{' :: (content ++ '}' :: '}' :: rest)))
    (s : List Char) : P s := by
  induction hn : s.length using Nat.strongRecOn generalizing s with
  | ind n ih =>
    by_cases h : HasTag s
    · obtain ⟨text, content, rest, rfl, ht, hc⟩ := exists_tag_of_hasTag h
      refine tag text content rest ht hc (ih rest.length ?_ rest rfl)
      subst hn
      simp only [List.length_append, List.length_cons]
      omega
    · exact plain s h

/-! ### What a tag is -/

theorem Keyword.word_of_ofWord? {s : String} {k : Keyword} (h : ofWord? s = some k) :
    k.word = s := by
  simpa using List.find?_some h

/-- The marks of tags: by the first character of the trimmed content, what the tag is. -/
theorem Mark.ofContent_cases {content : List Char} {m : Mark} (h : ofContent content = .ok m) :
    (∃ body keyword, content = '#' :: body ∧ m = .opening keyword
        (String.ofList (Text.trim (Text.cutAt ' ' (Text.trim body)).2)) ∧
      keyword.word = String.ofList (Text.cutAt ' ' (Text.trim body)).1) ∨
    (∃ body, content = '/' :: body ∧ m = .closing (String.ofList (Text.trim body))) ∨
    (∃ body, content = '>' :: body ∧ m = .part (String.ofList (Text.unquote (Text.trim body))) ∧
      Text.unquote (Text.trim body) ≠ []) ∨
    ((∀ body, content ≠ '#' :: body ∧ content ≠ '/' :: body ∧ content ≠ '>' :: body) ∧
      (m = .otherwise ∨ m = .variable (String.ofList content))) := by
  unfold ofContent at h
  split at h
  · simp at h
  · rename_i body
    simp only [ofOpening] at h
    split at h
    · rename_i keyword hk
      exact Or.inl ⟨body, keyword, rfl, (Except.ok.inj h).symm, Keyword.word_of_ofWord? hk⟩
    · simp at h
  · exact Or.inr (Or.inl ⟨_, rfl, (Except.ok.inj h).symm⟩)
  · rename_i body
    unfold ofPart at h
    split at h
    · simp at h
    · rename_i hne
      exact Or.inr (Or.inr (Or.inl ⟨body, rfl, (Except.ok.inj h).symm, hne⟩))
  · rename_i hnil hopening hclosing hpart
    refine Or.inr (Or.inr (Or.inr ⟨fun body => ⟨hopening body, hclosing body, hpart body⟩, ?_⟩))
    split at h
    · exact Or.inl (Except.ok.inj h).symm
    · exact Or.inr (Except.ok.inj h).symm

/-! ### The tokens -/

namespace Token

/-- Pieces from a position on and their tokens. -/
inductive Located : Nat → List Piece → List Token → Prop
  | nil (n : Nat) : Located n [] []
  | cons {n : Nat} {p : Piece} {m : Mark} {ps : List Piece} {ts : List Token}
      (hm : Mark.ofPiece p = .ok m) (h : Located (n + p.written.length) ps ts) :
      Located n (p :: ps) (⟨m, n⟩ :: ts)

variable {source : List Char} {n : Nat} {ps : List Piece} {ts : List Token}

theorem ofPieces_eq_ok_iff {done : List Token} :
    ofPieces source n done ps = .ok ts ↔ ∃ us, ts = done.reverse ++ us ∧ Located n ps us := by
  induction ps generalizing n done with
  | nil =>
    rw [ofPieces, Except.ok.injEq]
    constructor
    · rintro rfl
      exact ⟨[], by simp, .nil n⟩
    · rintro ⟨us, rfl, h⟩
      cases h
      simp
  | cons p ps ih =>
    rw [ofPieces]
    constructor
    · intro h
      split at h
      · rename_i m hm
        obtain ⟨us, rfl, hus⟩ := ih.1 h
        exact ⟨⟨m, n⟩ :: us, by simp, .cons hm hus⟩
      · cases h
    · rintro ⟨us, rfl, h⟩
      cases h with
      | @cons _ _ m _ us hm h =>
        rw [hm]
        exact ih.2 ⟨us, by simp, h⟩

theorem ofSource_eq_ok_iff_located : ofSource source = .ok ts ↔ Located 0 (pieces source) ts := by
  rw [ofSource, ofPieces_eq_ok_iff]
  simp

theorem Located.map_ofPiece (h : Located n ps ts) :
    ps.map Mark.ofPiece = ts.map (fun t => .ok t.mark) := by
  induction h with
  | nil n => rfl
  | cons hm h ih => rw [List.map_cons, List.map_cons, hm, ih]

/-- **The tokens of a source are its pieces**, each with what it is. -/
theorem map_ofPiece_of_ofSource (h : ofSource source = .ok ts) :
    (pieces source).map Mark.ofPiece = ts.map (fun t => .ok t.mark) :=
  (ofSource_eq_ok_iff_located.1 h).map_ofPiece

end Token

end SiteTemplates
