import SiteTemplates.Proofs.Template.Balance

/-!
# What a template reads as

A source is read as a template exactly if its marks have a derivation in the grammar, and then as
the tree of that derivation (`Node.ofSource_eq_ok_iff`).

The reading keeps a stack of open blocks and no derivation.  `build_nil_iff` to `build_closing_iff`
say what one mark does to the stack, and both directions rest on them alone.  A phrase that is read
in front of other marks puts its node onto the innermost body and leaves the stack as it was
(`build_body_iff`), so a derivation is read to its tree.  Conversely, `Suspended` keeps for every
open block the phrases that were read instead of their nodes; the marks of what is suspended and
the marks that are left are together the marks of the source, and when nothing is left they are
the marks of one body (`exists_body_of_build`).

Before all that the keywords are counted.  A phrase opens and closes each keyword equally often
(`countP_marksAll`), so the count never refuses what has a derivation.
-/

namespace SiteTemplates

open Text

namespace Node

variable {source : List Char} {maxDepth : Int} {stack : List OpenBlock} {ns r : List Node}
  {t : Token} {us : List Token}

/-! ### What one mark does -/

theorem build_nil_iff :
    build source maxDepth stack ns [] = .ok r ↔ stack = [] ∧ ns.reverse = r := by
  cases stack with
  | nil => simp [build_nil]
  | cons o outer => simp [build]

theorem build_text {s : String} (h : t.mark = .text s) :
    build source maxDepth stack ns (t :: us) = build source maxDepth stack (.text s :: ns) us := by
  simp only [build, h]

theorem build_part {name : String} (h : t.mark = .part name) :
    build source maxDepth stack ns (t :: us) =
      build source maxDepth stack (.part name :: ns) us := by
  simp only [build, h]

theorem build_variable_iff {written : String} (h : t.mark = .variable written) :
    build source maxDepth stack ns (t :: us) = .ok r ↔
      ∃ e, Expression.ofText written.toList = .ok e ∧
        build source maxDepth stack (.variable e :: ns) us = .ok r := by
  simp only [build, h]
  cases Expression.ofText written.toList <;> simp

theorem build_opening_iff {keyword : Keyword} {argument : String}
    (h : t.mark = .opening keyword argument) :
    build source maxDepth stack ns (t :: us) = .ok r ↔
      ((stack.length + 1 : Int) ≤ maxDepth ∧ unquote argument.toList ≠ []) ∧
        build source maxDepth
          (⟨keyword, Phrase.named argument, t.position, ns, none⟩ :: stack) [] us = .ok r := by
  simp only [build, h]
  by_cases hd : maxDepth < stack.length + 1
  · simp [hd, Int.not_le.2 hd]
  · rw [if_neg hd]
    cases hu : unquote argument.toList with
    | nil => simp
    | cons c cs => simp only [Phrase.named, hu, Int.not_lt.1 hd, ne_eq, reduceCtorEq,
        not_false_eq_true, true_and]

theorem build_otherwise_iff {o : OpenBlock} (h : t.mark = .otherwise) :
    build source maxDepth (o :: stack) ns (t :: us) = .ok r ↔
      (o.keyword.isDivisible = true ∧ o.firstPart = none) ∧
        build source maxDepth ({ o with firstPart := some ns.reverse } :: stack) [] us = .ok r := by
  simp only [build, h, Option.isNone_iff_eq_none]
  by_cases ho : o.keyword.isDivisible = true ∧ o.firstPart = none
  · rw [if_pos ho]
    exact ⟨fun hr => ⟨ho, hr⟩, And.right⟩
  · rw [if_neg ho]
    exact ⟨fun hr => by simp at hr, fun hr => absurd hr.1 ho⟩

theorem build_closing_iff {o : OpenBlock} {word : String} (h : t.mark = .closing word) :
    build source maxDepth (o :: stack) ns (t :: us) = .ok r ↔
      word = o.keyword.word ∧
        build source maxDepth stack (o.close ns :: o.before) us = .ok r := by
  simp only [build, h]
  by_cases hw : word = o.keyword.word <;> simp [hw]

theorem build_otherwise_ne (h : t.mark = .otherwise) :
    build source maxDepth [] ns (t :: us) ≠ .ok r := by
  simp [build, h]

theorem build_closing_ne {word : String} (h : t.mark = .closing word) :
    build source maxDepth [] ns (t :: us) ≠ .ok r := by
  simp [build, h]

end Node

namespace OpenBlock

/-- The blocks in a body are what it gives to a layout. -/
theorem filterMap_nodes (ps : List Phrase) :
    (Phrase.nodes ps).filterMap Node.filling? = Phrase.fillings ps := by
  induction ps with
  | nil => rfl
  | cons p ps ih =>
    rw [Phrase.nodes, Phrase.fillings, List.filterMap_cons, ih]
    cases p with
    | block keyword argument body => cases keyword <;> rfl
    | _ => rfl

theorem close_undivided (keyword : Keyword) (argument : String) (position : Nat)
    (before : List Node) (ps : List Phrase) :
    (⟨keyword, Phrase.named argument, position, before, none⟩ : OpenBlock).close
      (Phrase.nodes ps).reverse = (Phrase.block keyword argument ps).node := by
  cases keyword <;> simp [close, Node.ofBlock, Phrase.node, filterMap_nodes]

theorem close_divided {keyword : Keyword} (h : Phrase.Divisible keyword) (argument : String)
    (position : Nat) (before : List Node) (body ps : List Phrase) :
    (⟨keyword, Phrase.named argument, position, before, some (Phrase.nodes body)⟩ :
      OpenBlock).close (Phrase.nodes ps).reverse =
        (Phrase.divided keyword argument body ps).node := by
  rcases h with rfl | rfl <;> simp [close, Node.ofBlock, Phrase.node]

end OpenBlock

theorem Keyword.isDivisible_iff (keyword : Keyword) :
    keyword.isDivisible = true ↔ Phrase.Divisible keyword := by
  cases keyword <;> simp [isDivisible, Phrase.Divisible]

namespace Node

variable {source : List Char} {maxDepth : Int} {r : List Node}

/-! ### A derivation is read to its tree -/

mutual

/-- A phrase that is read leaves the open blocks as they are and its node in the innermost one. -/
theorem build_phrase_iff : ∀ (p : Phrase) (stack : List OpenBlock) {ns : List Node}
    {ts us : List Token}, p.Fits maxDepth stack.length → ts.map Token.mark = p.marks →
    (build source maxDepth stack ns (ts ++ us) = .ok r ↔
      build source maxDepth stack (p.node :: ns) us = .ok r)
  | .text s, _, _, _, _, _, h => by
    obtain ⟨t, rfl, ht⟩ := List.map_eq_singleton_iff.1 h
    rw [List.singleton_append, build_text ht, Phrase.node]
  | .variable written e, _, _, _, _, hp, h => by
    obtain ⟨t, rfl, ht⟩ := List.map_eq_singleton_iff.1 h
    have he : Expression.ofText written.toList = .ok e := hp
    rw [List.singleton_append, build_variable_iff ht, Phrase.node]
    simp [he]
  | .part name, _, _, _, _, _, h => by
    obtain ⟨t, rfl, ht⟩ := List.map_eq_singleton_iff.1 h
    rw [List.singleton_append, build_part ht, Phrase.node]
  | .block keyword argument body, stack, _, _, _, hp, h => by
    obtain ⟨t, ts, rfl, ht, h⟩ := List.map_eq_cons_iff.1 h
    obtain ⟨ts, cs, rfl, hts, h⟩ := List.map_eq_append_iff.1 h
    obtain ⟨c, rfl, hc⟩ := List.map_eq_singleton_iff.1 h
    rw [List.cons_append, build_opening_iff ht, List.append_assoc,
      build_body_iff body (_ :: stack) hp.2.2 hts, List.append_nil, List.singleton_append,
      build_closing_iff hc, OpenBlock.close_undivided]
    exact ⟨fun hr => hr.2.2, fun hr => ⟨⟨hp.1, hp.2.1⟩, rfl, hr⟩⟩
  | .divided keyword argument body alternative, stack, _, _, _, hp, h => by
    obtain ⟨hk, hd, ha, hbody, halternative⟩ := hp
    obtain ⟨t, ts, rfl, ht, h⟩ := List.map_eq_cons_iff.1 h
    obtain ⟨ts, es, rfl, hts, h⟩ := List.map_eq_append_iff.1 h
    obtain ⟨e, es, rfl, he, h⟩ := List.map_eq_cons_iff.1 h
    obtain ⟨es, cs, rfl, hes, h⟩ := List.map_eq_append_iff.1 h
    obtain ⟨c, rfl, hc⟩ := List.map_eq_singleton_iff.1 h
    rw [List.cons_append, build_opening_iff ht, List.append_assoc,
      build_body_iff body (_ :: stack) hbody hts, List.append_nil, List.cons_append,
      build_otherwise_iff he, List.append_assoc,
      build_body_iff alternative (_ :: stack) halternative hes, List.append_nil,
      List.singleton_append, build_closing_iff hc, List.reverse_reverse,
      OpenBlock.close_divided hk]
    exact ⟨fun hr => hr.2.2.2,
      fun hr => ⟨⟨hd, ha⟩, ⟨(Keyword.isDivisible_iff keyword).2 hk, rfl⟩, rfl, hr⟩⟩

/-- A body that is read leaves the open blocks as they are and its nodes in the innermost one. -/
theorem build_body_iff : ∀ (ps : List Phrase) (stack : List OpenBlock) {ns : List Node}
    {ts us : List Token}, Phrase.FitsAll maxDepth stack.length ps →
    ts.map Token.mark = Phrase.marksAll ps →
    (build source maxDepth stack ns (ts ++ us) = .ok r ↔
      build source maxDepth stack ((Phrase.nodes ps).reverse ++ ns) us = .ok r)
  | [], _, _, _, _, _, h => by
    rw [List.map_eq_nil_iff.1 h]
    rfl
  | p :: ps, stack, _, _, _, hp, h => by
    obtain ⟨ts, us, rfl, hts, hus⟩ := List.map_eq_append_iff.1 h
    rw [List.append_assoc, build_phrase_iff p stack hp.1 hts, build_body_iff ps stack hp.2 hus,
      Phrase.nodes, List.reverse_cons, List.append_assoc, List.singleton_append]

end

end Node

/-! ### What is read is derived -/

/-- An open block with its argument as it is written, and with the phrases that were read before it
and in its first part. -/
structure Suspended where
  keyword : Keyword
  argument : String
  position : Nat
  before : List Phrase
  firstPart : Option (List Phrase)

namespace Suspended

def openBlock (o : Suspended) : OpenBlock :=
  ⟨o.keyword, Phrase.named o.argument, o.position, (Phrase.nodes o.before).reverse,
    o.firstPart.map Phrase.nodes⟩

def close (o : Suspended) (ps : List Phrase) : Phrase :=
  match o.firstPart with
  | none => .block o.keyword o.argument ps
  | some body => .divided o.keyword o.argument body ps

/-- The marks in a block so far, its opening mark and what is before it included. -/
def marks (o : Suspended) : List Mark :=
  Phrase.marksAll o.before ++ .opening o.keyword o.argument ::
    (match o.firstPart with
    | none => []
    | some body => Phrase.marksAll body ++ [.otherwise])

/-- The marks in open blocks, the innermost of which comes first. -/
def marksAll : List Suspended → List Mark
  | [] => []
  | o :: outer => marksAll outer ++ o.marks

/-- The side conditions of a first part inside `depth` blocks. -/
def FirstFits (maxDepth : Int) (depth : Nat) (keyword : Keyword) : Option (List Phrase) → Prop
  | none => True
  | some body => Phrase.Divisible keyword ∧ Phrase.FitsAll maxDepth depth body

/-- The side conditions of open blocks, the innermost of which comes first. -/
def FitsAll (maxDepth : Int) : List Suspended → Prop
  | [] => True
  | o :: outer =>
    (outer.length + 1 : Int) ≤ maxDepth ∧ unquote o.argument.toList ≠ [] ∧
      Phrase.FitsAll maxDepth outer.length o.before ∧
      FirstFits maxDepth (outer.length + 1) o.keyword o.firstPart ∧ FitsAll maxDepth outer

variable {maxDepth : Int} {outer : List Suspended} {o : Suspended} {ps : List Phrase}

theorem close_openBlock (h : FitsAll maxDepth (o :: outer)) :
    o.openBlock.close (Phrase.nodes ps).reverse = (o.close ps).node := by
  obtain ⟨keyword, argument, position, before, firstPart⟩ := o
  cases firstPart with
  | none => exact OpenBlock.close_undivided keyword argument position _ ps
  | some body => exact OpenBlock.close_divided h.2.2.2.1.1 argument position _ body ps

theorem marksAll_close :
    marksAll (o :: outer) ++ (Phrase.marksAll ps ++ [.closing o.keyword.word]) =
      marksAll outer ++ Phrase.marksAll (o.before ++ [o.close ps]) := by
  obtain ⟨keyword, argument, position, before, firstPart⟩ := o
  cases firstPart <;> simp [marksAll, marks, close, Phrase.marksAll, Phrase.marks]

/-- The phrase of a block that is closed fits where the block was opened. -/
theorem fitsAll_close (h : FitsAll maxDepth (o :: outer))
    (hps : Phrase.FitsAll maxDepth (outer.length + 1) ps) :
    Phrase.FitsAll maxDepth outer.length (o.before ++ [o.close ps]) := by
  obtain ⟨keyword, argument, position, before, firstPart⟩ := o
  obtain ⟨hd, ha, hb, hf, -⟩ := h
  refine Phrase.fitsAll_append.2 ⟨hb, ?_, trivial⟩
  cases firstPart with
  | none => exact ⟨hd, ha, hps⟩
  | some body => exact ⟨hf.1, hd, ha, hf.2, hps⟩

end Suspended

namespace Node

variable {source : List Char} {maxDepth : Int} {r : List Node}

/-- **What is read has a derivation.**  The phrases that were read, those of open blocks included,
grow into a body whose marks are all marks and whose nodes are the tree. -/
theorem exists_body_of_build (ts : List Token) (stack : List Suspended) (ps : List Phrase)
    (hstack : Suspended.FitsAll maxDepth stack) (hps : Phrase.FitsAll maxDepth stack.length ps)
    (h : build source maxDepth (stack.map Suspended.openBlock) (Phrase.nodes ps).reverse ts =
      .ok r) :
    ∃ qs, Phrase.FitsAll maxDepth 0 qs ∧ Phrase.nodes qs = r ∧ Phrase.marksAll qs =
      Suspended.marksAll stack ++ (Phrase.marksAll ps ++ ts.map Token.mark) := by
  induction ts generalizing stack ps with
  | nil =>
    obtain ⟨hs, hr⟩ := build_nil_iff.1 h
    rw [List.map_eq_nil_iff] at hs
    subst hs
    exact ⟨ps, hps, by simpa using hr, by simp [Suspended.marksAll]⟩
  | cons t ts ih =>
    -- a phrase `p` of one mark is read: it goes to the end of the innermost body
    have leaf : ∀ p : Phrase, p.Fits maxDepth stack.length → p.marks = [t.mark] →
        build source maxDepth (stack.map Suspended.openBlock)
          (p.node :: (Phrase.nodes ps).reverse) ts = .ok r →
        ∃ qs, Phrase.FitsAll maxDepth 0 qs ∧ Phrase.nodes qs = r ∧ Phrase.marksAll qs =
          Suspended.marksAll stack ++ (Phrase.marksAll ps ++ (t :: ts).map Token.mark) := by
      intro p hp hm hb
      obtain ⟨qs, hqs, hr, hmarks⟩ := ih stack (ps ++ [p]) hstack
        (Phrase.fitsAll_append.2 ⟨hps, hp, trivial⟩) (by simpa [Phrase.nodes] using hb)
      exact ⟨qs, hqs, hr, by simpa [Phrase.marksAll, hm] using hmarks⟩
    cases hm : t.mark with
    | text s => exact leaf (.text s) trivial (by rw [hm]; rfl) (build_text hm ▸ h)
    | part name => exact leaf (.part name) trivial (by rw [hm]; rfl) (build_part hm ▸ h)
    | «variable» written =>
      obtain ⟨e, he, h⟩ := (build_variable_iff hm).1 h
      exact leaf (.variable written e) he (by rw [hm]; rfl) h
    | opening keyword argument =>
      obtain ⟨⟨hd, ha⟩, h⟩ := (build_opening_iff hm).1 h
      obtain ⟨qs, hqs, hr, hmarks⟩ :=
        ih (⟨keyword, argument, t.position, ps, none⟩ :: stack) []
          ⟨by simpa using hd, ha, hps, trivial, hstack⟩ trivial h
      exact ⟨qs, hqs, hr, by simpa [Suspended.marksAll, Suspended.marks, Phrase.marksAll, hm]
        using hmarks⟩
    | otherwise =>
      cases stack with
      | nil => exact absurd h (build_otherwise_ne hm)
      | cons o outer =>
        obtain ⟨⟨hk, hf⟩, h⟩ := (build_otherwise_iff hm).1 h
        obtain ⟨keyword, argument, position, before, firstPart⟩ := o
        obtain rfl : firstPart = none := by simpa [Suspended.openBlock] using hf
        obtain ⟨hd, ha, hb, -, ho⟩ := hstack
        obtain ⟨qs, hqs, hr, hmarks⟩ :=
          ih (⟨keyword, argument, position, before, some ps⟩ :: outer) []
            ⟨hd, ha, hb, ⟨(Keyword.isDivisible_iff keyword).1 hk, hps⟩, ho⟩ trivial
            (by simpa [Suspended.openBlock, Phrase.nodes] using h)
        exact ⟨qs, hqs, hr, by simpa [Suspended.marksAll, Suspended.marks, Phrase.marksAll, hm]
          using hmarks⟩
    | closing word =>
      cases stack with
      | nil => exact absurd h (build_closing_ne hm)
      | cons o outer =>
        obtain ⟨rfl, h⟩ := (build_closing_iff hm).1 h
        rw [Suspended.close_openBlock hstack] at h
        obtain ⟨qs, hqs, hr, hmarks⟩ := ih outer (o.before ++ [o.close ps])
          hstack.2.2.2.2 (Suspended.fitsAll_close hstack hps)
          (by simpa [Phrase.nodes, Suspended.openBlock] using h)
        refine ⟨qs, hqs, hr, ?_⟩
        rw [hmarks, ← List.append_assoc, ← Suspended.marksAll_close]
        simp [hm, Suspended.openBlock]

theorem ofTokens_eq_ok_iff {ts : List Token} : ofTokens source maxDepth ts = .ok r ↔
    ∃ d : Derivation maxDepth (ts.map Token.mark), d.tree = r := by
  constructor
  · intro h
    obtain ⟨qs, hqs, hr, hmarks⟩ := exists_body_of_build ts [] [] trivial trivial h
    exact ⟨⟨qs, hqs, hmarks⟩, hr⟩
  · rintro ⟨⟨ps, hps, hmarks⟩, hr⟩
    rw [ofTokens, ← List.append_nil ts, build_body_iff ps [] hps hmarks.symm, build_nil_iff]
    exact ⟨rfl, by simpa [Derivation.tree] using hr⟩

/-- **A source is read exactly as the grammar says.**  It has a tree if and only if its tokens can
be made out and have a derivation, and then it has the tree of that derivation, of which there is
only one. -/
theorem ofSource_eq_ok_iff (source : List Char) (maxDepth : Int) :
    (∀ ns, ofSource source maxDepth = .ok ns ↔
      ∃ ts, Token.ofSource source = .ok ts ∧
        ∃ d : Derivation maxDepth (ts.map Token.mark), d.tree = ns) ∧
    ∀ (ms : List Mark) (d d' : Derivation maxDepth ms), d = d' := by
  refine ⟨fun ns => ?_, fun _ => Derivation.eq⟩
  constructor
  · intro h
    simp only [ofSource, bind, Except.bind] at h
    split at h
    · simp at h
    · split at h
      · simp at h
      · rename_i ts hts
        exact ⟨ts, hts, ofTokens_eq_ok_iff.1 h⟩
  · rintro ⟨ts, hts, d, hd⟩
    rw [ofSource, checkBalance_of_body hts d.marksAll_body, hts]
    exact ofTokens_eq_ok_iff.2 ⟨d, hd⟩

end Node

end SiteTemplates
