import Mathlib.Data.List.Forall2

/-!
# Lists that correspond item by item, and sorted lists

What is done to a list item by item, with a result only if there is one for every item, gives a list
that corresponds to it.  A list in which no key comes twice ascends strictly once it is sorted.
-/

namespace SiteTemplates

variable {α β : Type} {R : α → β → Prop} {as : List α} {bs : List β}

/-! ### Item by item -/

theorem exists_of_forall₂ (h : List.Forall₂ R as bs) {a : α} (ha : a ∈ as) :
    ∃ b ∈ bs, R a b := by
  induction h with
  | nil => cases ha
  | cons hab _ ih =>
    rcases List.mem_cons.1 ha with rfl | ha
    · exact ⟨_, List.mem_cons_self, hab⟩
    · obtain ⟨b, hb, hr⟩ := ih ha
      exact ⟨b, List.mem_cons_of_mem _ hb, hr⟩

theorem exists_forall₂ (h : ∀ a ∈ as, ∃ b, R a b) : ∃ bs, List.Forall₂ R as bs := by
  induction as with
  | nil => exact ⟨[], .nil⟩
  | cons a rest ih =>
    obtain ⟨b, hb⟩ := h a List.mem_cons_self
    obtain ⟨bs, hbs⟩ := ih (fun c hc => h c (List.mem_cons_of_mem a hc))
    exact ⟨b :: bs, .cons hb hbs⟩

theorem pairwise_of_forall₂ {S : α → α → Prop} {T : β → β → Prop} (h : List.Forall₂ R as bs)
    (has : as.Pairwise S) (hstep : ∀ {a a' b b'}, S a a' → R a b → R a' b' → T b b') :
    bs.Pairwise T := by
  induction h with
  | nil => exact .nil
  | cons hab h ih =>
    obtain ⟨hfirst, hrest⟩ := List.pairwise_cons.1 has
    refine List.pairwise_cons.2 ⟨fun b' hb' => ?_, ih hrest⟩
    obtain ⟨a', ha', hr⟩ := exists_of_forall₂ h.flip hb'
    exact hstep (hfirst a' ha') hab hr

theorem mapM_eq_some_iff {f : α → Option β} :
    as.mapM f = some bs ↔ List.Forall₂ (fun a b => f a = some b) as bs := by
  induction as generalizing bs with
  | nil =>
    rw [List.mapM_nil, List.forall₂_nil_left_iff]
    exact ⟨fun h => (Option.some.inj h).symm, fun h => by rw [h]; rfl⟩
  | cons a rest ih =>
    rw [List.mapM_cons, List.forall₂_cons_left_iff]
    constructor
    · intro h
      obtain ⟨b, hb, h⟩ := Option.bind_eq_some_iff.1 h
      obtain ⟨bs', hbs, h⟩ := Option.bind_eq_some_iff.1 h
      cases h
      exact ⟨b, bs', hb, ih.1 hbs, rfl⟩
    · rintro ⟨b, bs', hb, hbs, rfl⟩
      rw [hb, ih.2 hbs]
      rfl

/-! ### In order -/

theorem pairwise_mergeSort_of_nodup {key : α → β} {le : α → α → Bool}
    (htrans : ∀ a b c, le a b = true → le b c = true → le a c = true)
    (htotal : ∀ a b, (le a b || le b a) = true) (h : (as.map key).Nodup) :
    (as.mergeSort le).Pairwise (fun a b => le a b = true ∧ key a ≠ key b) := by
  have hnodup : ((as.mergeSort le).map key).Nodup :=
    (((List.mergeSort_perm as le).map key).nodup_iff).2 h
  exact (List.pairwise_mergeSort htrans htotal as).and (List.pairwise_map.1 hnodup)

end SiteTemplates
