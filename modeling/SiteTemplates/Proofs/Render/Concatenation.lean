import SiteTemplates.Proofs.Render.Recursion
import SiteTemplates.Proofs.Template.Concatenation

/-!
# Rendering one source after another

Nodes are rendered one after the other in one scope and one frame, and what comes out of the earlier
ones does not change what comes out of the later ones.  So two sources, one after the other, give
the text of the first one and then that of the second one, and fail as the first of them does that
fails (`render_append`).  The text at the seam is one node in the whole and two in the parts, which
makes no difference (`renderIn_seam`).
-/

namespace SiteTemplates

namespace Renderer

variable {r : Renderer} {f : Frame} {s : Scope}

theorem renderIn_ofText (t : List Char) :
    r.renderIn f s (Phrase.nodes (Phrase.ofText t)) = .ok (String.ofList t) := by
  by_cases ht : t = []
  · rw [Phrase.ofText, if_pos ht, ht]
    exact renderIn_nil
  · rw [Phrase.ofText, if_neg ht]
    exact renderIn_text (String.ofList t)

theorem renderIn_seam (xs ys : List Node) (t u : List Char) :
    r.renderIn f s (xs ++ (Phrase.nodes (Phrase.ofText (t ++ u)) ++ ys)) = (do
      let v ← r.renderIn f s (xs ++ Phrase.nodes (Phrase.ofText t))
      let w ← r.renderIn f s (Phrase.nodes (Phrase.ofText u) ++ ys)
      return v ++ w) := by
  simp only [renderIn_append, renderIn_ofText, String.ofList_append]
  cases r.renderIn f s xs with
  | error e => rfl
  | ok v =>
    cases r.renderIn f s ys with
    | error e => rfl
    | ok w =>
      have hassoc : v ++ (String.ofList t ++ String.ofList u ++ w) =
          v ++ String.ofList t ++ (String.ofList u ++ w) := by
        simp only [String.append_assoc]
      exact congrArg Except.ok hassoc

theorem render_of_read {now : Moment} {source : String} {context : Value} {ns : List Node}
    (h : r.read source none = .ok ns) :
    r.render now source context = (do
      let scope ← scopeOf now context
      r.renderIn {} scope ns) := by
  simp only [render, h]
  rfl

/-- **Rendering goes through one source after the other.**  Where each of two sources is a template
and the text after the last tag of the first one does not begin a tag, the two together give the
text of the first one and then that of the second one; or they fail as the first one does; or, if
that does not fail, as the second one does. -/
theorem render_append {s₁ s₂ : String} {ns₁ ns₂ : List Node}
    (h₁ : Node.ofSource s₁.toList r.maxDepth = .ok ns₁)
    (h₂ : Node.ofSource s₂.toList r.maxDepth = .ok ns₂)
    (hpair : ¬ HasPair '{' (textAfterTags s₁.toList))
    (hlast : (textAfterTags s₁.toList).getLast? ≠ some '{')
    (hsize : (s₁.length + s₂.length : Int) ≤ r.maxTemplateSize) (now : Moment) (context : Value) :
    r.render now (s₁ ++ s₂) context = (do
      let t ← r.render now s₁ context
      let u ← r.render now s₂ context
      return t ++ u) := by
  obtain ⟨xs, t, u, ys, rfl, rfl, htree⟩ :=
    Node.exists_ofSource_append h₁ h₂ (not_hasPair_concat hpair hlast)
  have hlength := String.length_append s₁ s₂
  have hread : r.read (s₁ ++ s₂) none =
      .ok (xs ++ (Phrase.nodes (Phrase.ofText (t ++ u)) ++ ys)) :=
    read_eq_ok_iff.2 ⟨by omega, by rw [String.toList_append, htree]⟩
  have hread₁ : r.read s₁ none = .ok (xs ++ Phrase.nodes (Phrase.ofText t)) :=
    read_eq_ok_iff.2 ⟨by omega, h₁⟩
  have hread₂ : r.read s₂ none = .ok (Phrase.nodes (Phrase.ofText u) ++ ys) :=
    read_eq_ok_iff.2 ⟨by omega, h₂⟩
  rw [render_of_read hread, render_of_read hread₁, render_of_read hread₂]
  cases scopeOf now context with
  | error e => rfl
  | ok scope => exact renderIn_seam xs ys t u

/-! ### Two sources with a text at the seam -/

def firstSource : String :=
  "\x7b\x7b#if x\x7d\x7da\x7b\x7belse\x7d\x7db\x7b\x7b/if\x7d\x7d-"

def secondSource : String := "-\x7b\x7b y \x7d\x7d"

theorem render_append_firstSource :
    textAfterTags firstSource.toList = ['-'] ∧
      (ofTemplates []).render (.ofDate ⟨2024, 1, 1, by decide⟩) (firstSource ++ secondSource)
        (.map [(.text "y", .text "c")]) = .ok "b--c" := by
  have htail : textAfterTags firstSource.toList = ['-'] := by decide +kernel
  have hpair : ¬ HasPair '{' (textAfterTags firstSource.toList) := by
    rw [htail]
    exact not_hasPair_singleton '{' '-'
  have hlast : (textAfterTags firstSource.toList).getLast? ≠ some '{' := by
    rw [htail]
    decide
  have hfirst : Node.ofSource firstSource.toList (ofTemplates []).maxDepth =
      .ok [.conditional "x" false [.text "a"] [.text "b"], .text "-"] := by rfl
  have hsecond : Node.ofSource secondSource.toList (ofTemplates []).maxDepth =
      .ok [.text "-", .variable ⟨"y", []⟩] := by rfl
  have happend := render_append hfirst hsecond hpair hlast (by decide)
    (.ofDate ⟨2024, 1, 1, by decide⟩) (.map [(.text "y", .text "c")])
  refine ⟨htail, happend.trans ?_⟩
  decide +kernel

end Renderer

end SiteTemplates
