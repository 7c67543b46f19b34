import SiteTemplates.Proofs.Render.Failures
import SiteTemplates.Proofs.Render.Recursion
import SiteTemplates.Proofs.Render.Stability
import SiteTemplates.Proofs.Template.Reading

/-!
# Limits and the stack are guards

The limits of rendering and the stack of names in a frame refuse templates, and that is all they do:
nothing that is rendered depends on them.

* Under higher limits rendering has the same outcome, unless it failed for a limit before
  (`HigherLimits.answer_eq_or`).  The trees are read under a limit of their own, which has the same
  property (`Node.build_of_le`), so the two renderings go through the same trees step by step, and
  the first step at which they part is refused by a lower limit.
* In a frame of less depth with fewer names on its stack a tree gives the text that it gave
  (`renderIn_of_lower`).  Of the frame of a part only the name, the depth and the stack depend on
  where the part is inserted, so any two insertions give what the lowest frame gives
  (`eq_of_renderIn_part`).
-/

namespace SiteTemplates

open Text

/-! ### Limits of reading -/

namespace Node

variable {D D' : Int}

/-- With a higher limit the same is read, unless a block lies too deep for the lower one. -/
theorem build_of_le (h : D ≤ D') (source : List Char) (ts : List Token) (stack : List OpenBlock)
    (ns : List Node) :
    build source D stack ns ts = build source D' stack ns ts ∨
      ∃ line, build source D stack ns ts = .error ⟨.nestedTooDeep D, some line⟩ := by
  induction ts generalizing stack ns with
  | nil => exact .inl rfl
  | cons t ts ih =>
    cases hm : t.mark with
    | text s =>
      rw [build_text hm, build_text hm]
      exact ih stack (.text s :: ns)
    | part name =>
      rw [build_part hm, build_part hm]
      exact ih stack (.part name :: ns)
    | «variable» written =>
      simp only [build, hm]
      cases Expression.ofText written.toList with
      | ok e => exact ih stack (.variable e :: ns)
      | error d => exact .inl rfl
    | opening keyword argument =>
      simp only [build, hm]
      by_cases hd : D < stack.length + 1
      · exact .inr ⟨lineAt source t.position, if_pos hd⟩
      · rw [if_neg hd, if_neg (by omega)]
        cases unquote argument.toList with
        | nil => exact .inl rfl
        | cons c cs => exact ih _ []
    | otherwise =>
      simp only [build, hm]
      cases stack with
      | nil => exact .inl rfl
      | cons o outer =>
        dsimp only
        split
        · exact ih _ []
        · exact .inl rfl
    | closing word =>
      simp only [build, hm]
      cases stack with
      | nil => exact .inl rfl
      | cons o outer =>
        dsimp only
        split
        · exact ih outer _
        · exact .inl rfl

theorem ofSource_of_le (h : D ≤ D') (source : List Char) :
    ofSource source D = ofSource source D' ∨
      ∃ line, ofSource source D = .error ⟨.nestedTooDeep D, some line⟩ := by
  simp only [ofSource, ofTokens, bind, Except.bind]
  cases checkBalance source with
  | error e => exact .inl rfl
  | ok _ =>
    cases Token.ofSource source with
    | error e => exact .inl rfl
    | ok ts => exact build_of_le h source ts [] []

end Node

/-! ### Limits of rendering -/

/-- The failures of a limit of a renderer, on the size of a source or on nesting. -/
inductive Renderer.OfLimits (r : Renderer) : Failure → Prop
  | oversized {size : Nat} (h : r.maxTemplateSize < size) (name : Option String) :
      OfLimits r (.template ⟨.oversized size r.maxTemplateSize, name⟩)
  | nestedTooDeep (line : Nat) (name : Option String) :
      OfLimits r (.template ⟨.flaw ⟨.nestedTooDeep r.maxDepth, some line⟩, name⟩)
  | tooDeep (name : Option String) : OfLimits r (.template ⟨.tooDeep r.maxDepth, name⟩)

/-- A renderer beside the same one with limits that are no lower. -/
structure HigherLimits (r r' : Renderer) : Prop where
  filters : r.filters = r'.filters
  source? : r.source? = r'.source?
  size : r.maxTemplateSize ≤ r'.maxTemplateSize
  depth : r.maxDepth ≤ r'.maxDepth

namespace HigherLimits

open Renderer

variable {r r' : Renderer} (h : HigherLimits r r')

include h

theorem agree_read (source : String) (name : Option String) :
    Agree (Unless r.OfLimits) (r.read source name) (r'.read source name) := by
  have hsize := h.size
  unfold Renderer.read
  by_cases hl : r.maxTemplateSize < source.length
  · rw [if_pos hl]
    exact .failure (.inl (.oversized hl name))
  · rw [if_neg hl, if_neg (by omega)]
    rcases Node.ofSource_of_le h.depth source.toList with hn | ⟨line, hn⟩
    · rw [hn]
      exact .of_eq rfl
    · rw [hn]
      exact .failure (.inl (.nestedTooDeep line name))

theorem agree_descend (f : Frame) :
    Agree (Unless r.OfLimits) (r.descend f) (r'.descend f) := by
  have hdepth := h.depth
  unfold Renderer.descend
  by_cases hd : r.maxDepth ≤ f.depth
  · rw [if_pos hd]
    exact .failure (.inl (.tooDeep f.name))
  · rw [if_neg hd]
    split
    · omega
    · exact .value ()

theorem agree_enter (f : Frame) (role : Role) (name : String) :
    Agree (Unless r.OfLimits) (r.enter f role name) (r'.enter f role name) := by
  unfold Renderer.enter
  rw [← h.source?]
  split
  · exact .of_eq rfl
  · cases r.source? name with
    | none => exact .of_eq rfl
    | some source =>
      exact (h.agree_descend f).bind (fun _ _ => Unless.of_none)
        (fun _ _ _ => h.agree_read source (some name))

/-- The rendering under the limits and that under the higher ones go through the same frames until a
limit is reached. -/
def lockstep : Lockstep r r' where
  frames f f' := f = f'
  excused := Unless r.OfLimits
  excused_of_none _ h _ := h.of_none
  excused_self _ := .inr rfl
  same_fillings _ _ h := sameFillings_of_eq h
  agree_expression e s := .of_eq (renderExpression_congr h.filters e s)
  agree_descend := by
    rintro f _ rfl
    exact h.agree_descend f
  agree_enter := by
    rintro f _ role name rfl
    exact h.agree_enter f role name
  frames_loop _ _ h := congrArg loopFrame h
  frames_template _ _ _ _ _ _ _ h ha ha' := ha.templateFrame_eq h ha'

theorem agree_scopeAndTree (now : Moment) (context : Value) (text : String)
    (name : Option String) : Agree (Unless r.OfLimits) (r.scopeAndTree now context text name)
      (r'.scopeAndTree now context text name) := by
  refine (Agree.of_eq rfl).bind (fun _ _ => Unless.of_none) (fun scope _ _ => ?_)
  exact (h.agree_read text name).bind (fun _ _ => Unless.of_none) (fun _ _ _ => .of_eq rfl)

theorem agree_prepare (now : Moment) (context : Value) (q : Request) :
    Agree (Unless r.OfLimits) (r.prepare now context q) (r'.prepare now context q) := by
  cases q with
  | source text => exact h.agree_scopeAndTree now context text none
  | template name =>
    simp only [prepare, ← h.source?]
    cases r.source? name with
    | none => exact .of_eq rfl
    | some text => exact h.agree_scopeAndTree now context text (some name)

/-- **Higher limits change nothing** but the failures of the lower ones. -/
theorem answer_eq_or (now : Moment) (context : Value) (q : Request) :
    r.answer now context q = r'.answer now context q ∨
      ∃ e, r.OfLimits e ∧ r.answer now context q = .error e := by
  rw [← agree_unless_iff, answer_eq, answer_eq]
  refine (h.agree_prepare now context q).bind (fun _ _ => Unless.of_none) (fun p _ _ => ?_)
  exact h.lockstep.agree_renderIn rfl p.1 p.2

end HigherLimits

/-! ### Frames -/

namespace Renderer

variable {r : Renderer} {f f' : Frame} {s : Scope} {ns : List Node} {t t' : String}

/-- A frame that gives every block the same filling, has no more levels around it and expands no
further templates. -/
structure Lower (f' f : Frame) : Prop where
  fillings : SameFillings f.overrides f'.overrides
  depth : f'.depth ≤ f.depth
  stack : f'.stack ⊆ f.stack

theorem Lower.descend (h : Lower f' f) (hd : r.descend f = .ok ()) : r.descend f' = .ok () := by
  have hdepth := h.depth
  rw [descend_eq_ok_iff] at hd ⊢
  omega

theorem Lower.enter (h : Lower f' f) {role : Role} {name : String}
    (he : r.enter f role name = .ok ns) : r.enter f' role name = .ok ns := by
  obtain ⟨hstack, hdepth, htree⟩ := enter_eq_ok_iff.1 he
  have hle := h.depth
  exact enter_eq_ok_iff.2 ⟨fun hm => hstack (h.stack hm), by omega, htree⟩

theorem Lower.loop (h : Lower f' f) : Lower (loopFrame f') (loopFrame f) :=
  ⟨h.fillings, Nat.succ_le_succ h.depth, h.stack⟩

theorem Lower.template (h : Lower f' f) {x : Node} {role : Role} {name : String}
    {overrides overrides' : List (String × List Node)} (ha : Asks f.overrides x role name overrides)
    (ha' : Asks f'.overrides x role name overrides') :
    Lower (templateFrame f' name overrides') (templateFrame f name overrides) := by
  have hstack : f'.stack ++ [name] ⊆ f.stack ++ [name] :=
    List.append_subset.2 ⟨List.Subset.trans h.stack (List.subset_append_left f.stack [name]),
      List.subset_append_right f.stack [name]⟩
  exact ⟨ha.sameFillings ha' h.fillings, Nat.succ_le_succ h.depth, hstack⟩

/-- A rendering beside itself in lower frames, where every failure is excused. -/
def lowered (r : Renderer) : Lockstep r r where
  frames f f' := Lower f' f
  excused _ _ := True
  excused_of_none _ _ _ := trivial
  excused_self _ := trivial
  same_fillings _ _ h := h.fillings
  agree_expression _ _ := .of_ok (fun _ ht => ht)
  agree_descend _ _ h := .of_ok (fun _ => h.descend)
  agree_enter _ _ _ _ h := .of_ok (fun _ => h.enter)
  frames_loop _ _ h := h.loop
  frames_template _ _ _ _ _ _ _ h ha ha' := h.template ha ha'

/-- **What is rendered in a frame is rendered alike in a lower one.** -/
theorem renderIn_of_lower (h : Lower f' f) (ht : r.renderIn f s ns = .ok t) :
    r.renderIn f' s ns = .ok t :=
  (r.lowered.agree_renderIn h s ns).eq_of_ok ht

/-- Wherever a part is inserted, it gives what its tree gives in the lowest frame of its name. -/
theorem renderIn_of_renderIn_part {name : String} (ht : r.renderIn f s [.part name] = .ok t) :
    ∃ ns, r.tree? name = some ns ∧ r.renderIn (templateFrame {} name []) s ns = .ok t := by
  rw [renderIn_part] at ht
  obtain ⟨ns, henter, ht⟩ := ok_of_bind ht
  have hlower : Lower (templateFrame {} name []) (templateFrame f name []) :=
    ⟨fun _ => rfl, Nat.succ_le_succ (Nat.zero_le f.depth), List.subset_append_right f.stack [name]⟩
  exact ⟨ns, (enter_eq_ok_iff.1 henter).2.2, renderIn_of_lower hlower ht⟩

theorem eq_of_renderIn_part {name : String} (ht : r.renderIn f s [.part name] = .ok t)
    (ht' : r.renderIn f' s [.part name] = .ok t') : t = t' := by
  obtain ⟨ns, htree, h⟩ := renderIn_of_renderIn_part ht
  obtain ⟨ns', htree', h'⟩ := renderIn_of_renderIn_part ht'
  obtain rfl : ns = ns' := Option.some.inj (htree.symm.trans htree')
  exact Except.ok.inj (h.symm.trans h')

/-- **Limits and the stack are guards only.**  What is rendered is rendered alike under higher
limits, and what fails there no more has failed for a limit.  What is rendered in a frame is
rendered alike in any frame with the same fillings, of no greater depth and with no other names on
its stack.  Any two insertions of a part in one scope that give a text give the same. -/
theorem guards_only (r : Renderer) :
    (∀ r', HigherLimits r r' → ∀ now context q,
      (∀ t, r.answer now context q = .ok t → r'.answer now context q = .ok t) ∧
      (∀ e t, r.answer now context q = .error e → r'.answer now context q = .ok t →
        r.OfLimits e)) ∧
    (∀ f f' s ns t, SameFillings f.overrides f'.overrides → f'.depth ≤ f.depth →
      f'.stack ⊆ f.stack → r.renderIn f s ns = .ok t → r.renderIn f' s ns = .ok t) ∧
    (∀ f f' s name t t', r.renderIn f s [.part name] = .ok t →
      r.renderIn f' s [.part name] = .ok t' → t = t') := by
  refine ⟨fun r' h now context q => ⟨fun t ht => ?_, fun e t he ht => ?_⟩, ?_, ?_⟩
  · rcases h.answer_eq_or now context q with heq | ⟨e, -, he⟩
    · rw [← heq, ht]
    · rw [ht] at he
      cases he
  · rcases h.answer_eq_or now context q with heq | ⟨e', hlimits, he'⟩
    · rw [heq, ht] at he
      cases he
    · rw [he] at he'
      cases he'
      exact hlimits
  · intro f f' s ns t hfillings hdepth hstack ht
    exact renderIn_of_lower ⟨hfillings, hdepth, hstack⟩ ht
  · intro f f' s name t t' ht ht'
    exact eq_of_renderIn_part ht ht'

/-! ### A part inserted twice -/

/-- A page with a part and a block, and the part, under limits. -/
def pageWithin (maxTemplateSize maxDepth : Int) : Renderer :=
  { ofTemplates
      [("page", "\x7b\x7b> part\x7d\x7d\x7b\x7b#block b\x7d\x7d1\x7b\x7b/block\x7d\x7d"),
        ("part", "\x7b\x7b#block b\x7d\x7d2\x7b\x7b/block\x7d\x7d")] with
    maxTemplateSize := maxTemplateSize
    maxDepth := maxDepth }

theorem higherLimits_pageWithin {S S' D D' : Int} (hS : S ≤ S') (hD : D ≤ D') :
    HigherLimits (pageWithin S D) (pageWithin S' D') := ⟨rfl, rfl, hS, hD⟩

def deepFrame : Frame := ⟨7, ["x", "y"], [("b", [.text "3"])], some "x"⟩

def lowFrame : Frame := ⟨1, ["y"], [("b", [.text "3"])], none⟩

theorem guards_only_pageWithin :
    (pageWithin 60 2).answer (.ofDate ⟨2024, 1, 1, by decide⟩) (.map []) (.template "page") =
        .ok "21" ∧
      (pageWithin 50 0).OfLimits
        (.template ⟨.flaw ⟨.nestedTooDeep 0, some 1⟩, some "page"⟩) ∧
      (pageWithin 50 9).renderIn lowFrame [] [.part "part", .block "b" []] = .ok "23" ∧
      ∃ t, (pageWithin 50 9).renderIn {} [] [.part "part"] = .ok t ∧ "2" = t := by
  have hlow : (pageWithin 50 1).answer (.ofDate ⟨2024, 1, 1, by decide⟩) (.map [])
      (.template "page") = .ok "21" := by decide +kernel
  have hnone : (pageWithin 50 0).answer (.ofDate ⟨2024, 1, 1, by decide⟩) (.map [])
      (.template "page") = .error (.template ⟨.flaw ⟨.nestedTooDeep 0, some 1⟩, some "page"⟩) := by
    decide +kernel
  have hdeep : (pageWithin 50 9).renderIn deepFrame [] [.part "part", .block "b" []] =
      .ok "23" := by decide +kernel
  have hpart : (pageWithin 50 9).renderIn deepFrame [] [.part "part"] = .ok "2" := by
    decide +kernel
  have hroot : (pageWithin 50 9).renderIn {} [] [.part "part"] = .ok "2" := by decide +kernel
  obtain ⟨honce, -⟩ := (guards_only (pageWithin 50 1)).1 (pageWithin 60 2)
    (higherLimits_pageWithin (by decide) (by decide)) (.ofDate ⟨2024, 1, 1, by decide⟩) (.map [])
    (.template "page")
  obtain ⟨-, hfails⟩ := (guards_only (pageWithin 50 0)).1 (pageWithin 50 1)
    (higherLimits_pageWithin (by decide) (by decide)) (.ofDate ⟨2024, 1, 1, by decide⟩) (.map [])
    (.template "page")
  obtain ⟨-, hframes, hparts⟩ := guards_only (pageWithin 50 9)
  refine ⟨honce "21" hlow, hfails _ "21" hnone hlow, ?_, "2", hroot, ?_⟩
  · exact hframes deepFrame lowFrame [] _ "23" (fun _ => rfl) (by decide) (by decide) hdeep
  · exact hparts deepFrame {} [] "part" "2" "2" hpart hroot

end Renderer

end SiteTemplates
