import SiteTemplates.Cache.Templates
import SiteTemplates.Proofs.Template.Partition
import SiteTemplates.Proofs.Text.Trim

/-!
# Which partials a source refers to

`partialNames` searches a source for partial tags without reading it as a template.  This file
compares what it finds with the partials among the tokens.

The search never looks beyond a tag: it can start only at a pair of opening braces, and it ends at
the first closing one.  So it finds at most one name in a tag, `Piece.reference?`, and all that it
finds is found so (`partialNamesFrom_eq`).  In a partial tag without a closing brace that is the
name of the partial (`reference?_of_part`).  The two ways to differ are a closing brace in the name
of a partial, which ends the search too early, and another tag that ends like a partial tag, as
`{{{> name}}` does; `mem_partialNames_iff_part_iff` says that there are no others.
-/

namespace SiteTemplates

open Text

/-! ### The search -/

def found (name : List Char) (done : List (List Char)) : List (List Char) :=
  if name.isEmpty then done else name :: done

theorem partialNamesFrom_of_some {done : List (List Char)} {body name rest : List Char}
    (h : partialTag? body = some (name, rest)) :
    partialNamesFrom done ('{' :: '{' :: body) = partialNamesFrom (found name done) rest := by
  rw [partialNamesFrom]
  split
  · rename_i name' rest' h'
    rw [h, Option.some.injEq, Prod.mk.injEq] at h'
    obtain ⟨rfl, rfl⟩ := h'
    rfl
  · rename_i h'
    simp [h] at h'

theorem partialNamesFrom_of_none {done : List (List Char)} {body : List Char}
    (h : partialTag? body = none) :
    partialNamesFrom done ('{' :: '{' :: body) = partialNamesFrom done ('{' :: body) := by
  rw [partialNamesFrom]
  split
  · rename_i name' rest' h'
    simp [h] at h'
  · rfl

theorem partialNamesFrom_skip {done : List (List Char)} {c : Char} {s : List Char}
    (h : ¬ (c = '{' ∧ s.head? = some '{')) :
    partialNamesFrom done (c :: s) = partialNamesFrom done s := by
  rw [partialNamesFrom]
  intro body hc hs
  exact h ⟨hc, by rw [hs]; rfl⟩

theorem partialNamesFrom_text {done : List (List Char)} {text : List Char} (rest : List Char)
    (h : ¬ HasPair '{' (text ++ ['{'])) :
    partialNamesFrom done (text ++ '{' :: rest) = partialNamesFrom done ('{' :: rest) := by
  induction text with
  | nil => rfl
  | cons c text ih =>
    rw [List.cons_append, hasPair_cons, not_or] at h
    rw [List.cons_append, partialNamesFrom_skip, ih h.2]
    rintro ⟨hc, hs⟩
    refine h.1 ⟨hc, ?_⟩
    cases text <;> simp_all

theorem beforeClose?_eq_none {s : List Char} (h : ¬ HasPair '}' s) : beforeClose? s = none := by
  unfold beforeClose?
  split
  · rename_i rest hs
    refine absurd (HasPair.mono (hasPair_append '}' [] rest) ?_) h
    rw [List.nil_append, ← hs]
    exact (List.dropWhile_suffix _).isInfix
  · rfl

theorem partialTag?_eq_none {s : List Char} (h : ¬ HasPair '}' s) : partialTag? s = none := by
  unfold partialTag?
  split
  · rename_i body hs
    have hbody : ¬ HasPair '}' body := fun hp => h (hp.mono (List.IsSuffix.isInfix
      (List.IsSuffix.trans ⟨['>'], hs.symm⟩ (List.dropWhile_suffix isBlank))))
    rw [beforeClose?_eq_none hbody]
    rfl
  · rfl

/-- Where no tag is complete, nothing is found. -/
theorem partialNamesFrom_of_no_tag {done : List (List Char)} {s : List Char} (h : ¬ HasTag s) :
    partialNamesFrom done s = done.reverse := by
  induction s with
  | nil => rw [partialNamesFrom]
  | cons c s ih =>
    have htail : ¬ HasTag s := by
      rintro ⟨a, b, hs, hb⟩
      exact h ⟨c :: a, b, by rw [hs]; rfl, hb⟩
    by_cases hc : c = '{' ∧ s.head? = some '{'
    · obtain ⟨rfl, hs⟩ := hc
      obtain ⟨body, rfl⟩ := List.head?_eq_some_iff.1 hs
      have hbody : ¬ HasPair '}' body := fun hp => h ⟨[], body, rfl, hp⟩
      rw [partialNamesFrom_of_none (partialTag?_eq_none hbody), ih htail]
    · rw [partialNamesFrom_skip hc, ih htail]

/-! ### What is found in a tag -/

/-- The name behind opening braces and a `>`, perhaps an empty one, if no closing brace follows. -/
def referenceAt? : List Char → Option (List Char)
  | '{' :: '{' :: body =>
    match trimStart body with
    | '>' :: name => if '}' ∈ name then none else some (unquote (trim name))
    | _ => none
  | _ => none

def firstReference? : List Char → Option (List Char)
  | [] => none
  | c :: s => (referenceAt? (c :: s)).or (firstReference? s)

/-- The name that a piece is searched for: in a tag, from its opening braces on, the first one. -/
def Piece.reference? : Piece → Option (List Char)
  | .text _ => none
  | .tag content => (firstReference? ('{' :: '{' :: content)).filter (fun name => !name.isEmpty)

theorem dropWhile_append_brace {s : List Char} (rest : List Char) (h : '}' ∉ s) :
    (s ++ '}' :: rest).dropWhile (· != '}') = '}' :: rest := by
  rw [List.dropWhile_append_of_pos]
  · rfl
  · intro c hc
    rw [bne_iff_ne]
    rintro rfl
    exact h hc

theorem takeWhile_append_brace {s : List Char} (rest : List Char) (h : '}' ∉ s) :
    (s ++ '}' :: rest).takeWhile (· != '}') = s := by
  rw [List.takeWhile_append_of_pos]
  · simp
  · intro c hc
    rw [bne_iff_ne]
    rintro rfl
    exact h hc

theorem beforeClose?_append {name : List Char} (rest : List Char)
    (h : ¬ HasPair '}' (name ++ ['}'])) :
    beforeClose? (name ++ '}' :: '}' :: rest) =
      if '}' ∈ name then none else some (name, rest) := by
  by_cases hm : '}' ∈ name
  · rw [if_pos hm]
    obtain ⟨before, after, rfl, hbefore⟩ := List.eq_append_cons_of_mem hm
    -- the first closing brace is followed by another character, or else it made a pair
    cases after with
    | nil => exact absurd (by simpa using hasPair_append '}' before []) h
    | cons x after =>
      have hx : x ≠ '}' := by
        rintro rfl
        exact h (by simpa using hasPair_append '}' before (after ++ ['}']))
      rw [beforeClose?, List.append_assoc, List.cons_append, dropWhile_append_brace _ hbefore]
      split
      · rename_i hcons
        simp only [List.cons_append, List.cons.injEq, true_and] at hcons
        exact absurd hcons.1 hx
      · rfl
  · rw [if_neg hm, beforeClose?, dropWhile_append_brace _ hm, takeWhile_append_brace _ hm]
    rfl

/-- At opening braces inside of a tag, the search finds what the tag has to offer there. -/
theorem partialTag?_append {body : List Char} (rest : List Char)
    (h : ¬ HasPair '}' (body ++ ['}'])) :
    partialTag? (body ++ '}' :: '}' :: rest) =
      (referenceAt? ('{' :: '{' :: body)).map (fun name => (name, rest)) := by
  have hsuffix : trimStart body <:+ body := List.dropWhile_suffix _
  simp only [partialTag?, referenceAt?,
    trimStart_append_of_not_blank body ('}' :: rest) (show isBlank '}' = false from rfl)]
  cases hb : trimStart body with
  | nil => simp
  | cons c name =>
    by_cases hc : c = '>'
    · subst hc
      have hname : ¬ HasPair '}' (name ++ ['}']) := by
        refine fun hp => h (hp.mono (List.IsSuffix.isInfix ?_))
        obtain ⟨before, rfl⟩ := hb ▸ hsuffix
        exact ⟨before ++ ['>'], by simp⟩
      simp only [List.cons_append, beforeClose?_append rest hname]
      split <;> rfl
    · simp only [List.cons_append]
      split
      · rename_i heq
        exact absurd (List.cons.inj heq).1 hc
      · split
        · rename_i heq
          exact absurd (List.cons.inj heq).1 hc
        · rfl

theorem referenceAt?_of_ne {c : Char} {s : List Char} (h : ¬ (c = '{' ∧ s.head? = some '{')) :
    referenceAt? (c :: s) = none := by
  unfold referenceAt?
  split
  · rename_i heq
    obtain ⟨rfl, rfl⟩ := List.cons.inj heq
    exact absurd ⟨rfl, rfl⟩ h
  · rfl

/-- In a tag, the search finds the first name and goes on behind the tag. -/
theorem partialNamesFrom_tag {done : List (List Char)} {s : List Char} (rest : List Char)
    (h : ¬ HasPair '}' (s ++ ['}'])) :
    partialNamesFrom done (s ++ '}' :: '}' :: rest) =
      partialNamesFrom
        (((firstReference? s).filter (fun name => !name.isEmpty)).toList ++ done) rest := by
  induction s with
  | nil =>
    rw [List.nil_append, partialNamesFrom_skip (by simp), partialNamesFrom_skip (by simp)]
    rfl
  | cons c s ih =>
    rw [List.cons_append, hasPair_cons, not_or] at h
    by_cases hc : c = '{' ∧ s.head? = some '{'
    · obtain ⟨rfl, hs⟩ := hc
      obtain ⟨body, rfl⟩ := List.head?_eq_some_iff.1 hs
      have hbody : ¬ HasPair '}' (body ++ ['}']) :=
        fun hp => h.2 (hp.mono (List.suffix_cons '{' _).isInfix)
      have htag := partialTag?_append rest hbody
      cases hr : referenceAt? ('{' :: '{' :: body) with
      | none =>
        rw [hr, Option.map_none] at htag
        rw [List.cons_append, List.cons_append, partialNamesFrom_of_none htag, firstReference?, hr,
          Option.none_or, ← ih h.2, List.cons_append]
      | some name =>
        rw [hr, Option.map_some] at htag
        rw [List.cons_append, List.cons_append, partialNamesFrom_of_some htag, firstReference?, hr,
          Option.some_or, found]
        cases name <;> rfl
    · rw [List.cons_append, partialNamesFrom_skip, ih h.2, firstReference?, referenceAt?_of_ne hc,
        Option.none_or]
      rintro ⟨rfl, hs⟩
      refine hc ⟨rfl, ?_⟩
      cases s <;> simp_all

theorem filterMap_ofText (s : List Char) : (Piece.ofText s).filterMap Piece.reference? = [] := by
  rw [Piece.ofText]
  split <;> rfl

/-- **The search goes through the tags**, and finds at most one name in each. -/
theorem partialNamesFrom_eq (source : List Char) (done : List (List Char)) :
    partialNamesFrom done source = done.reverse ++ (pieces source).filterMap Piece.reference? := by
  induction source using partition_induction generalizing done with
  | plain s h =>
    rw [partialNamesFrom_of_no_tag h, pieces_of_no_tag h, filterMap_ofText, List.append_nil]
  | tag text content rest ht hc ih =>
    have htag : ¬ HasPair '}' ('{' :: '{' :: content ++ ['}']) := by
      simpa [hasPair_cons] using hc
    have hmove : '{' :: '{' :: (content ++ '}' :: '}' :: rest) =
        ('{' :: '{' :: content) ++ '}' :: '}' :: rest := rfl
    rw [partialNamesFrom_text _ ht, hmove, partialNamesFrom_tag rest htag, ih, ← hmove,
      pieces_append_tag rest ht hc, List.filterMap_append, filterMap_ofText, List.filterMap_cons,
      Piece.reference?]
    cases (firstReference? ('{' :: '{' :: content)).filter (fun name => !name.isEmpty) <;> simp

theorem mem_partialNames_iff (source : String) (n : String) :
    n ∈ partialNames source ↔
      ∃ p ∈ pieces source.toList, ∃ name, p.reference? = some name ∧ String.ofList name = n := by
  simp only [partialNames, sortedNames, List.mem_mergeSort, List.mem_eraseDups,
    partialNamesFrom_eq, List.reverse_nil, List.nil_append, List.mem_map, List.mem_filterMap]
  constructor
  · rintro ⟨name, ⟨p, hp, hr⟩, hn⟩
    exact ⟨p, hp, name, hr, hn⟩
  · rintro ⟨p, hp, name, hr, hn⟩
    exact ⟨name, ⟨p, hp, hr⟩, hn⟩

/-! ### What is found and what is meant -/

theorem not_mem_of_firstReference? {s name : List Char} (h : firstReference? s = some name) :
    '}' ∉ name := by
  induction s with
  | nil => simp [firstReference?] at h
  | cons c s ih =>
    rw [firstReference?, Option.or_eq_some_iff] at h
    rcases h with h | ⟨-, h⟩
    · unfold referenceAt? at h
      split at h
      · split at h
        · split at h
          · simp at h
          · rename_i hx
            rw [← Option.some.inj h, mem_unquote rfl, mem_trim rfl]
            exact hx
        · simp at h
      · simp at h
    · exact ih h

theorem not_mem_of_reference? {p : Piece} {name : List Char} (h : p.reference? = some name) :
    '}' ∉ name := by
  cases p with
  | text s => simp [Piece.reference?] at h
  | tag content => exact not_mem_of_firstReference? (Option.filter_eq_some_iff.1 h).1

/-- In a partial tag whose name has no closing brace, the search finds the name. -/
theorem reference?_of_part {p : Piece} {n : String} (h : Mark.ofPiece p = .ok (.part n))
    (hn : '}' ∉ n.toList) : p.reference? = some n.toList := by
  cases p with
  | text s => simp [Mark.ofPiece] at h
  | tag content =>
    obtain ⟨_, _, _, h, _⟩ | ⟨_, _, h⟩ | ⟨body, hb, h, hne⟩ | ⟨_, h | h⟩ :=
      Mark.ofContent_cases h <;> try simp at h
    obtain ⟨x, hx, rfl⟩ := trimStart_of_trim_eq_cons hb
    rw [trim_trimEnd] at h hne
    have hx' : '}' ∉ x := by
      rwa [h, String.toList_ofList, mem_unquote rfl, mem_trim rfl] at hn
    simp only [Piece.reference?, firstReference?, referenceAt?, hx, if_neg hx', h]
    cases hu : unquote (trim x) with
    | nil => exact absurd hu hne
    | cons c cs => simp [Option.filter]

variable {source : String} {ts : List Token}

theorem exists_token_of_piece (h : Token.ofSource source.toList = .ok ts) {p : Piece}
    (hp : p ∈ pieces source.toList) : ∃ t ∈ ts, Mark.ofPiece p = .ok t.mark := by
  have hm := List.mem_map_of_mem (f := Mark.ofPiece) hp
  rw [Token.map_ofPiece_of_ofSource h] at hm
  obtain ⟨t, ht, he⟩ := List.mem_map.1 hm
  exact ⟨t, ht, he.symm⟩

theorem exists_piece_of_token (h : Token.ofSource source.toList = .ok ts) {t : Token}
    (ht : t ∈ ts) : ∃ p ∈ pieces source.toList, Mark.ofPiece p = .ok t.mark := by
  have hm := List.mem_map_of_mem (f := fun t : Token => (.ok t.mark : Except Defect Mark)) ht
  rw [← Token.map_ofPiece_of_ofSource h] at hm
  exact List.mem_map.1 hm

/-- **When the search finds the partials of a source.**  The names that are recorded for a template
are the names of its partial tags exactly if no such name holds a closing brace, and the name that
the search finds in any other tag, if it does, is one of them. -/
theorem mem_partialNames_iff_part_iff (h : Token.ofSource source.toList = .ok ts) :
    ((∀ n, n ∈ partialNames source ↔ ∃ t ∈ ts, t.mark = .part n) ↔
      (∀ t ∈ ts, ∀ n, t.mark = .part n → '}' ∉ n.toList) ∧
      ∀ p ∈ pieces source.toList, (∀ n, Mark.ofPiece p ≠ .ok (.part n)) →
        ∀ name, p.reference? = some name → ∃ t ∈ ts, t.mark = .part (String.ofList name)) ∧
    ∀ (t : Template) (c : TemplateCache) (now : Moment) (key : String), t.source = source →
      t.dependencies = partialNames source ∧
        (c.put now key t).included.get? key = some (partialNames source) := by
  refine ⟨⟨fun hset => ⟨fun t ht n hm => ?_, fun p hp _ name hr => ?_⟩,
    fun ⟨hbrace, hother⟩ n => ⟨fun hn => ?_, fun ⟨t, ht, hm⟩ => ?_⟩⟩, fun t c now key hs => ?_⟩
  · obtain ⟨p, -, name, hr, rfl⟩ := (mem_partialNames_iff source n).1 ((hset n).2 ⟨t, ht, hm⟩)
    rw [String.toList_ofList]
    exact not_mem_of_reference? hr
  · exact (hset _).1 ((mem_partialNames_iff source _).2 ⟨p, hp, name, hr, rfl⟩)
  · obtain ⟨p, hp, name, hr, rfl⟩ := (mem_partialNames_iff source n).1 hn
    by_cases hpart : ∃ m, Mark.ofPiece p = .ok (.part m)
    · obtain ⟨m, hm⟩ := hpart
      obtain ⟨t, ht, hmark⟩ := exists_token_of_piece h hp
      rw [hm, Except.ok.injEq] at hmark
      have hname := reference?_of_part hm (hbrace t ht m hmark.symm)
      rw [hr, Option.some.injEq] at hname
      exact ⟨t, ht, by rw [← hmark, hname, String.ofList_toList]⟩
    · exact hother p hp (fun m hm => hpart ⟨m, hm⟩) name hr
  · obtain ⟨p, hp, hpm⟩ := exists_piece_of_token h ht
    rw [hm] at hpm
    exact (mem_partialNames_iff source n).2
      ⟨p, hp, n.toList, reference?_of_part hpm (hbrace t ht n hm), String.ofList_toList⟩
  · subst hs
    exact ⟨rfl, by simp [TemplateCache.put, Template.dependencies]⟩

theorem mem_partialNames_iff_part_twice :
    Token.ofSource "\x7b\x7b> a\x7d\x7d\x7b\x7b\x7b> a\x7d\x7d".toList =
      .ok [⟨.part "a", 0⟩, ⟨.variable "\x7b> a", 7⟩] ∧
    ∀ n, n ∈ partialNames "\x7b\x7b> a\x7d\x7d\x7b\x7b\x7b> a\x7d\x7d" ↔
      ∃ t ∈ [(⟨.part "a", 0⟩ : Token), ⟨.variable "\x7b> a", 7⟩], t.mark = .part n := by
  have h : Token.ofSource "\x7b\x7b> a\x7d\x7d\x7b\x7b\x7b> a\x7d\x7d".toList =
      .ok [⟨.part "a", 0⟩, ⟨.variable "\x7b> a", 7⟩] := by rfl
  refine ⟨h, (mem_partialNames_iff_part_iff h).1.2 ⟨?_, ?_⟩⟩
  · intro t ht n hm
    simp only [List.mem_cons, List.not_mem_nil, or_false] at ht
    rcases ht with rfl | rfl
    · obtain rfl := Mark.part.inj hm
      decide
    · cases hm
  · -- the braces of the second tag hold the name that the first one includes
    intro p hp hpart name hr
    refine ⟨⟨.part "a", 0⟩, List.mem_cons_self, ?_⟩
    have hnames : (pieces "\x7b\x7b> a\x7d\x7d\x7b\x7b\x7b> a\x7d\x7d".toList).filterMap
        Piece.reference? = [['a'], ['a']] := by rfl
    have hname := List.mem_filterMap.2 ⟨p, hp, hr⟩
    rw [hnames] at hname
    simp only [List.mem_cons, List.not_mem_nil, or_false, or_self] at hname
    rw [hname]

/-- **A name with a closing brace is missed**, and a variable tag that ends like a partial tag gives
a name that is included nowhere. -/
theorem not_mem_partialNames_of_brace :
    (Token.ofSource "\x7b\x7b> a\x7db\x7d\x7d".toList = .ok [⟨.part "a\x7db", 0⟩] ∧
      "a\x7db" ∉ partialNames "\x7b\x7b> a\x7db\x7d\x7d") ∧
    (Token.ofSource "\x7b\x7b\x7b> a\x7d\x7d".toList = .ok [⟨.variable "\x7b> a", 0⟩] ∧
      "a" ∈ partialNames "\x7b\x7b\x7b> a\x7d\x7d") := by
  have hmissed : (pieces "\x7b\x7b> a\x7db\x7d\x7d".toList).filterMap Piece.reference? = [] := by
    rfl
  have hextra : (pieces "\x7b\x7b\x7b> a\x7d\x7d".toList).filterMap Piece.reference? = [['a']] := by
    rfl
  refine ⟨⟨by rfl, ?_⟩, by rfl, ?_⟩
  · rw [mem_partialNames_iff]
    rintro ⟨p, hp, name, hr, -⟩
    have hname := List.mem_filterMap.2 ⟨p, hp, hr⟩
    rw [hmissed] at hname
    cases hname
  · have hname : ['a'] ∈ (pieces "\x7b\x7b\x7b> a\x7d\x7d".toList).filterMap Piece.reference? := by
      rw [hextra]
      exact List.mem_singleton_self _
    obtain ⟨p, hp, hr⟩ := List.mem_filterMap.1 hname
    exact (mem_partialNames_iff _ _).2 ⟨p, hp, ['a'], hr, rfl⟩

end SiteTemplates
