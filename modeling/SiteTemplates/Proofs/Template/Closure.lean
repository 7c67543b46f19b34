import SiteTemplates.Proofs.Template.Reading

/-!
# Blocks are closed

The keywords are counted before the tokens of a source are read.  The count refuses nothing that the
reading alone would take, and what it lets pass is never read to its end with a block still open
(`checkBalance_agrees`).

The first half is the balance of derivations.  For the second one `Turns` says what a mark does to
the keywords of the open blocks: it leaves them, puts one on, or takes off the one that it closes.
The reading of a token either turns them so, whatever follows, or ends there with a flaw that is no
unclosed block (`build_cons_cases`).  Hence along a run each keyword is open as often as it was
opened and not closed (`build_append_cases`), and behind the tokens of a balanced source no block is
open.
-/

namespace SiteTemplates

open Text

/-! ### Flaws that are no unclosed block -/

theorem Expression.ne_unclosed_of_ofText {s : List Char} {d : Defect} (h : ofText s = .error d)
    (keyword : Keyword) : d ≠ .unclosed keyword := by
  unfold ofText at h
  split at h
  · cases h
    simp
  · split at h
    · cases h
      simp
    · split at h
      · cases h
        simp
      · split at h <;> cases h
        simp

theorem Mark.ne_unclosed_of_ofPiece {p : Piece} {d : Defect} (h : ofPiece p = .error d)
    (keyword : Keyword) : d ≠ .unclosed keyword := by
  cases p with
  | text s => cases h
  | tag content =>
    simp only [ofPiece] at h
    unfold ofContent at h
    split at h
    · cases h
      simp
    · simp only [ofOpening] at h
      split at h <;> cases h
      simp
    · cases h
    · unfold ofPart at h
      split at h <;> cases h
      simp
    · split at h <;> cases h

theorem Token.ne_unclosed_of_ofPieces {source : List Char} {ps : List Piece} {position : Nat}
    {done : List Token} {f : Flaw} (h : ofPieces source position done ps = .error f)
    (keyword : Keyword) : f.defect ≠ .unclosed keyword := by
  induction ps generalizing position done with
  | nil => cases h
  | cons p ps ih =>
    simp only [ofPieces] at h
    split at h
    · exact ih h
    · rename_i d hd
      cases h
      exact Mark.ne_unclosed_of_ofPiece hd keyword

theorem Piece.ne_unclosed_of_imbalance? {ps : List Piece} {d : Defect} (h : imbalance? ps = some d)
    (keyword : Keyword) : d ≠ .unclosed keyword := by
  obtain ⟨k, -, hk⟩ := List.exists_of_findSome?_eq_some h
  split at hk
  · cases hk
  · cases hk
    simp

theorem ne_unclosed_of_checkBalance {source : List Char} {f : Flaw}
    (h : checkBalance source = .error f) (keyword : Keyword) : f.defect ≠ .unclosed keyword := by
  unfold checkBalance at h
  split at h
  · rename_i hd
    cases h
    exact Piece.ne_unclosed_of_imbalance? hd keyword
  · cases h

/-! ### What a mark does to the open blocks -/

/-- The keywords of the open blocks, the innermost of which comes first, before and after a mark. -/
inductive Turns : List Keyword → Mark → List Keyword → Prop
  | leaves {ks : List Keyword} {m : Mark} (hopened : m.openedKeyword? = none)
      (hclosed : m.closedWord? = none) : Turns ks m ks
  | opens (ks : List Keyword) (k : Keyword) (argument : String) :
      Turns ks (.opening k argument) (k :: ks)
  | closes (ks : List Keyword) (k : Keyword) : Turns (k :: ks) (.closing k.word) ks

/-- As often as a keyword is open after a mark or closed by it, it was open before or is opened by
it. -/
theorem Turns.count_eq {ks ks' : List Keyword} {m : Mark} (h : Turns ks m ks')
    (keyword : Keyword) :
    ks'.count keyword + [m].countP (Mark.closes keyword) =
      ks.count keyword + [m].countP (Mark.opens keyword) := by
  cases h with
  | leaves hopened hclosed => simp [Mark.opens, Mark.closes, hopened, hclosed]
  | opens k argument => simp [List.count_cons, List.countP_cons]
  | closes k => simp [List.count_cons, List.countP_cons]

def OpenBlock.keywords (stack : List OpenBlock) : List Keyword := stack.map OpenBlock.keyword

namespace Node

open OpenBlock (keywords)

variable (source : List Char) (maxDepth : Int)

/-- **One token** turns the open blocks, whatever follows it, or the reading ends there. -/
theorem build_cons_cases (stack : List OpenBlock) (ns : List Node) (t : Token) :
    (∃ stack' ns', Turns (keywords stack) t.mark (keywords stack') ∧ ∀ us,
      build source maxDepth stack ns (t :: us) = build source maxDepth stack' ns' us) ∨
    ∃ f : Flaw, (∀ keyword, f.defect ≠ .unclosed keyword) ∧ ∀ us,
      build source maxDepth stack ns (t :: us) = .error f := by
  cases hm : t.mark with
  | text s => exact .inl ⟨stack, _, .leaves rfl rfl, fun us => build_text hm⟩
  | part name => exact .inl ⟨stack, _, .leaves rfl rfl, fun us => build_part hm⟩
  | «variable» written =>
    cases he : Expression.ofText written.toList with
    | ok e =>
      refine .inl ⟨stack, .variable e :: ns, .leaves rfl rfl, fun us => ?_⟩
      simp only [build, hm, he]
    | error d =>
      refine .inr ⟨⟨d, some (lineAt source t.position)⟩, Expression.ne_unclosed_of_ofText he, ?_⟩
      intro us
      simp only [build, hm, he]
  | opening keyword argument =>
    by_cases hd : maxDepth < stack.length + 1
    · refine .inr ⟨⟨.nestedTooDeep maxDepth, some (lineAt source t.position)⟩, by simp, ?_⟩
      intro us
      simp only [build, hm, if_pos hd]
    · cases hu : unquote argument.toList with
      | nil =>
        refine .inr ⟨⟨.missingArgument keyword, some (lineAt source t.position)⟩, by simp, ?_⟩
        intro us
        simp only [build, hm, if_neg hd, hu]
      | cons c name =>
        refine .inl ⟨⟨keyword, String.ofList (c :: name), t.position, ns, none⟩ :: stack, [],
          .opens _ keyword argument, ?_⟩
        intro us
        simp only [build, hm, if_neg hd, hu]
  | otherwise =>
    cases stack with
    | nil =>
      refine .inr ⟨⟨.strayElse, some (lineAt source t.position)⟩, by simp, ?_⟩
      intro us
      simp only [build, hm]
    | cons o outer =>
      by_cases ho : o.keyword.isDivisible = true ∧ o.firstPart.isNone = true
      · refine .inl ⟨{ o with firstPart := some ns.reverse } :: outer, [], .leaves rfl rfl, ?_⟩
        intro us
        simp only [build, hm, if_pos ho]
      · refine .inr ⟨⟨.elseInside o.keyword, some (lineAt source t.position)⟩, by simp, ?_⟩
        intro us
        simp only [build, hm, if_neg ho]
  | closing word =>
    cases stack with
    | nil =>
      refine .inr ⟨⟨.strayClose word, some (lineAt source t.position)⟩, by simp, ?_⟩
      intro us
      simp only [build, hm]
    | cons o outer =>
      by_cases hw : word = o.keyword.word
      · subst hw
        refine .inl ⟨outer, o.close ns :: o.before, .closes _ o.keyword, ?_⟩
        intro us
        simp only [build, hm, if_pos]
      · refine .inr ⟨⟨.closedBy o.keyword word, some (lineAt source t.position)⟩, by simp, ?_⟩
        intro us
        simp only [build, hm, if_neg hw]

/-- **A run of tokens**: unless the reading ends in it, each keyword is open after it as often as
the open blocks and the marks account for. -/
theorem build_append_cases (ts : List Token) (stack : List OpenBlock) (ns : List Node) :
    (∃ stack' ns',
      (∀ keyword,
        (keywords stack').count keyword + (ts.map Token.mark).countP (Mark.closes keyword) =
        (keywords stack).count keyword + (ts.map Token.mark).countP (Mark.opens keyword)) ∧
      ∀ us, build source maxDepth stack ns (ts ++ us) = build source maxDepth stack' ns' us) ∨
    ∃ f : Flaw, (∀ keyword, f.defect ≠ .unclosed keyword) ∧ ∀ us,
      build source maxDepth stack ns (ts ++ us) = .error f := by
  induction ts generalizing stack ns with
  | nil => exact .inl ⟨stack, ns, fun _ => rfl, fun _ => rfl⟩
  | cons t ts ih =>
    obtain ⟨stack₁, ns₁, hturn, hstep⟩ | ⟨f, hf, hstep⟩ :=
      build_cons_cases source maxDepth stack ns t
    · obtain ⟨stack₂, ns₂, hcount, hrun⟩ | ⟨f, hf, hrun⟩ := ih stack₁ ns₁
      · refine .inl ⟨stack₂, ns₂, fun keyword => ?_, fun us => ?_⟩
        · have hone := hturn.count_eq keyword
          have hrest := hcount keyword
          rw [List.map_cons, ← List.singleton_append, List.countP_append, List.countP_append]
          omega
        · rw [List.cons_append, hstep, hrun]
      · exact .inr ⟨f, hf, fun us => by rw [List.cons_append, hstep, hrun]⟩
    · exact .inr ⟨f, hf, fun us => by rw [List.cons_append, hstep]⟩

end Node

namespace Node

/-! ### What the count lets pass -/

variable {source : List Char} {maxDepth : Int} {ts : List Token}

/-- Behind the tokens the reading goes on with these blocks open and these nodes read, whatever the
tokens are that follow. -/
def OpenAfter (source : List Char) (maxDepth : Int) (ts : List Token) (stack : List OpenBlock)
    (ns : List Node) : Prop :=
  ∀ us, ofTokens source maxDepth (ts ++ us) = build source maxDepth stack ns us

/-- The tokens of a balanced source are read to their end with no block open, or not to their
end. -/
theorem openAfter_or_flaw (maxDepth : Int) (h : checkBalance source = .ok ())
    (hts : Token.ofSource source = .ok ts) :
    (∃ ns, OpenAfter source maxDepth ts [] ns) ∨
    ∃ f : Flaw, (∀ keyword, f.defect ≠ .unclosed keyword) ∧ ∀ us,
      ofTokens source maxDepth (ts ++ us) = .error f := by
  refine (build_append_cases source maxDepth ts [] []).imp_left ?_
  rintro ⟨stack, ns, hcount, hrun⟩
  have hzero : ∀ keyword, (OpenBlock.keywords stack).count keyword = 0 := by
    intro keyword
    have hc := hcount keyword
    rw [(checkBalance_iff_countP hts).1 h] at hc
    simpa [OpenBlock.keywords] using hc
  obtain rfl : stack = [] := by
    rw [← List.map_eq_nil_iff, List.eq_nil_iff_forall_not_mem]
    exact fun keyword => List.count_eq_zero.1 (hzero keyword)
  exact ⟨ns, hrun⟩

/-- Where the tokens end inside a block, that block is not closed. -/
theorem OpenAfter.ofTokens_eq {o : OpenBlock} {outer : List OpenBlock} {ns : List Node}
    (h : OpenAfter source maxDepth ts (o :: outer) ns) : ofTokens source maxDepth ts =
      .error ⟨.unclosed o.keyword, some (lineAt source o.position)⟩ := by
  have hend := h []
  rwa [List.append_nil, build] at hend

theorem ofTokens_ne_unclosed (h : checkBalance source = .ok ())
    (hts : Token.ofSource source = .ok ts) {f : Flaw} (hf : ofTokens source maxDepth ts = .error f)
    (keyword : Keyword) : f.defect ≠ .unclosed keyword := by
  rw [← List.append_nil ts] at hf
  obtain ⟨ns, hclosed⟩ | ⟨f', hf', herror⟩ := openAfter_or_flaw maxDepth h hts
  · rw [hclosed [], build_nil] at hf
    cases hf
  · rw [herror []] at hf
    cases hf
    exact hf' keyword

theorem ofSource_ne_unclosed {f : Flaw} (hf : ofSource source maxDepth = .error f)
    (keyword : Keyword) : f.defect ≠ .unclosed keyword := by
  simp only [ofSource, bind, Except.bind] at hf
  split at hf
  · rename_i hbalance
    cases hf
    exact ne_unclosed_of_checkBalance hbalance keyword
  · rename_i hbalance
    split at hf
    · rename_i htokens
      cases hf
      exact Token.ne_unclosed_of_ofPieces htokens keyword
    · rename_i ts hts
      exact ofTokens_ne_unclosed hbalance hts hf keyword

/-- **The count agrees with the reading.**  What the reading alone takes is balanced.  The tokens of
a balanced source are not read to their end with a block open, and so a block that is not closed is
never what a source is refused for. -/
theorem checkBalance_agrees (source : List Char) (maxDepth : Int) :
    (∀ ts ns, Token.ofSource source = .ok ts → ofTokens source maxDepth ts = .ok ns →
      checkBalance source = .ok ()) ∧
    (∀ ts, checkBalance source = .ok () → Token.ofSource source = .ok ts →
      (∀ stack ns, OpenAfter source maxDepth ts stack ns → stack = []) ∧
      ∀ f, ofTokens source maxDepth ts = .error f → ∀ keyword, f.defect ≠ .unclosed keyword) ∧
    ∀ f, ofSource source maxDepth = .error f → ∀ keyword, f.defect ≠ .unclosed keyword := by
  refine ⟨?_, ?_, fun f => ofSource_ne_unclosed⟩
  · intro ts ns hts hns
    obtain ⟨d, -⟩ := ofTokens_eq_ok_iff.1 hns
    exact checkBalance_of_body hts d.marksAll_body
  · intro ts h hts
    refine ⟨fun stack ns hopen => ?_, fun f => ofTokens_ne_unclosed h hts⟩
    cases stack with
    | nil => rfl
    | cons o outer => exact absurd rfl (ofTokens_ne_unclosed h hts hopen.ofTokens_eq o.keyword)

-- without the count a block may be open at the end
example : ofTokens "\x7b\x7b#if a\x7d\x7d".toList 1 [⟨.opening .whenTrue "a", 0⟩] =
    .error ⟨.unclosed .whenTrue, some 1⟩ := by rfl

end Node

end SiteTemplates
