import SiteTemplates.Proofs.Template.Reading
import SiteTemplates.Proofs.Template.Shown

/-!
# Which tags ask for templates

A node that asks for another template comes from a tag that does.  The tree of a source keeps the
nodes of its tags at their nesting, and a layout keeps of its body no more than the blocks that
stand directly in it; so what is written in the tree, fillings included, is written in the source
(`asksIn_of_contains`), while a tag outside of the blocks of a layout may be in no tree.
-/

namespace SiteTemplates

/-- The role and the name in which a mark asks for a template. -/
def Mark.asked? : Mark → Option (Role × String)
  | .part name => some (.part, name)
  | .opening .layout argument => some (.layout, Phrase.named argument)
  | _ => none

/-- The role and the name in which a node asks for a template. -/
def Node.asked? : Node → Option (Role × String)
  | .part name => some (.part, name)
  | .layout name _ => some (.layout, name)
  | _ => none

/-- A source has a tag that asks for the template of a name in a role. -/
def AsksIn (source : String) (role : Role) (name : String) : Prop :=
  ∃ ts, Token.ofSource source.toList = .ok ts ∧ ∃ t ∈ ts, t.mark.asked? = some (role, name)

theorem Asks.asked?_eq {overrides inner : List (String × List Node)} {x : Node} {role : Role}
    {name : String} (h : Asks overrides x role name inner) : x.asked? = some (role, name) := by
  cases h <;> rfl

namespace Phrase

variable {ps : List Phrase} {p : Phrase} {x : Node}

theorem exists_mem_of_mem_nodes (h : x ∈ nodes ps) : ∃ p ∈ ps, p.node = x := by
  induction ps with
  | nil => cases h
  | cons p ps ih =>
    rw [nodes] at h
    rcases List.mem_cons.1 h with rfl | h
    · exact ⟨p, List.mem_cons_self, rfl⟩
    · obtain ⟨q, hq, rfl⟩ := ih h
      exact ⟨q, List.mem_cons_of_mem p hq, rfl⟩

theorem exists_mem_of_mem_fillings {b : String × List Node} (h : b ∈ fillings ps) :
    ∃ argument body, block .block argument body ∈ ps ∧ b = (named argument, nodes body) := by
  induction ps with
  | nil => cases h
  | cons p ps ih =>
    rw [fillings] at h
    rcases List.mem_append.1 h with h | h
    · unfold filling at h
      split at h
      · exact ⟨_, _, List.mem_cons_self, List.mem_singleton.1 h⟩
      · cases h
    · obtain ⟨argument, body, hm, hb⟩ := ih h
      exact ⟨argument, body, List.mem_cons_of_mem p hm, hb⟩

theorem marks_subset_marksAll (h : p ∈ ps) : p.marks ⊆ marksAll ps := by
  induction ps with
  | nil => cases h
  | cons q ps ih =>
    intro m hm
    rw [marksAll, List.mem_append]
    rcases List.mem_cons.1 h with rfl | h
    · exact .inl hm
    · exact .inr (ih h hm)

theorem marksAll_subset_block (keyword : Keyword) (argument : String) (ps : List Phrase) :
    marksAll ps ⊆ (block keyword argument ps).marks := by
  intro m hm
  rw [marks]
  exact List.mem_cons_of_mem _ (List.mem_append_left _ hm)

/-- A node that stands in a body is that of a phrase with marks among those of the body. -/
theorem exists_of_mem_nodes (h : x ∈ nodes ps) :
    ∃ q : Phrase, q.node = x ∧ q.marks ⊆ marksAll ps := by
  obtain ⟨q, hq, rfl⟩ := exists_mem_of_mem_nodes h
  exact ⟨q, rfl, marks_subset_marksAll hq⟩

theorem exists_of_mem_children (p : Phrase) (h : x ∈ p.node.children) :
    ∃ q : Phrase, q.node = x ∧ q.marks ⊆ p.marks := by
  cases p with
  | text s => cases h
  | «variable» written expression => cases h
  | part name => cases h
  | block keyword argument body =>
    have hin : ∀ ps : List Phrase, marksAll ps ⊆ marksAll body → x ∈ nodes ps →
        ∃ q : Phrase, q.node = x ∧ q.marks ⊆ (block keyword argument body).marks := by
      intro ps hps hx
      obtain ⟨q, hq, hsub⟩ := exists_of_mem_nodes hx
      exact ⟨q, hq, fun m hm => marksAll_subset_block keyword argument body (hps (hsub hm))⟩
    cases keyword with
    | whenTrue => exact hin body (List.Subset.refl _) (by simpa [node, Node.children] using h)
    | whenFalse => exact hin body (List.Subset.refl _) (by simpa [node, Node.children] using h)
    | each => exact hin body (List.Subset.refl _) h
    | block => exact hin body (List.Subset.refl _) h
    | layout =>
      -- of the body of a layout the blocks are left, and their bodies lie one level further down
      obtain ⟨b, hb, hx⟩ := List.mem_flatMap.1 h
      obtain ⟨inner, content, hm, rfl⟩ := exists_mem_of_mem_fillings hb
      refine hin content (fun m hmark => ?_) hx
      exact marks_subset_marksAll hm (marksAll_subset_block .block inner content hmark)
  | divided keyword argument body alternative =>
    rcases List.mem_append.1 h with h | h
    · obtain ⟨q, hq, hsub⟩ := exists_of_mem_nodes h
      refine ⟨q, hq, fun m hm => ?_⟩
      rw [marks]
      exact List.mem_cons_of_mem _ (List.mem_append_left _ (hsub hm))
    · obtain ⟨q, hq, hsub⟩ := exists_of_mem_nodes h
      refine ⟨q, hq, fun m hm => ?_⟩
      rw [marks]
      refine List.mem_cons_of_mem _ (List.mem_append_right _ (List.mem_cons_of_mem _ ?_))
      exact List.mem_append_left _ (hsub hm)

theorem exists_of_contains (h : Contains (nodes ps) x) :
    ∃ q : Phrase, q.node = x ∧ q.marks ⊆ marksAll ps := by
  induction h with
  | top h => exact exists_of_mem_nodes h
  | child _ hy ih =>
    obtain ⟨q, rfl, hq⟩ := ih
    obtain ⟨q', hx, hq'⟩ := exists_of_mem_children q hy
    exact ⟨q', hx, fun m hm => hq (hq' hm)⟩

theorem exists_mark_of_asked? (p : Phrase) {a : Role × String} (h : p.node.asked? = some a) :
    ∃ m ∈ p.marks, m.asked? = some a := by
  cases p with
  | text s => cases h
  | «variable» written expression => cases h
  | part name => exact ⟨.part name, List.mem_singleton_self _, h⟩
  | block keyword argument body =>
    cases keyword with
    | layout =>
      refine ⟨.opening .layout argument, ?_, h⟩
      rw [marks]
      exact List.mem_cons_self
    | _ => cases h
  | divided keyword argument body alternative => cases h

end Phrase

/-- **What a tree asks for, its source asks for**: a node at any nesting comes from a tag. -/
theorem asksIn_of_contains {source : String} {maxDepth : Int} {ns : List Node}
    (hn : Node.ofSource source.toList maxDepth = .ok ns) {x : Node} (hx : Contains ns x)
    {role : Role} {name : String} (ha : x.asked? = some (role, name)) :
    AsksIn source role name := by
  unfold Node.ofSource at hn
  cases hbalance : checkBalance source.toList with
  | error f => simp [hbalance, bind, Except.bind] at hn
  | ok _ =>
    cases htokens : Token.ofSource source.toList with
    | error f => simp [hbalance, htokens, bind, Except.bind] at hn
    | ok ts =>
      simp only [hbalance, htokens, bind, Except.bind] at hn
      obtain ⟨d, rfl⟩ := Node.ofTokens_eq_ok_iff.1 hn
      obtain ⟨p, rfl, hp⟩ := Phrase.exists_of_contains hx
      obtain ⟨m, hm, hasked⟩ := p.exists_mark_of_asked? ha
      have hmark : m ∈ ts.map Token.mark := d.marksAll_body ▸ hp hm
      obtain ⟨t, ht, rfl⟩ := List.mem_map.1 hmark
      exact ⟨ts, htokens, t, ht, hasked⟩

end SiteTemplates
