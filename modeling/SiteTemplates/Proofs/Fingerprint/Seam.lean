import SiteTemplates.Proofs.Fingerprint.Separation

/-!
# Where the parts of a fingerprint meet

The digest is taken of template, content and context with a zero byte between them.  Nothing but
this byte marks where the template ends, and a template and a content may hold zero characters of
their own.  So what the input tells of the two is one text, the template and the content with a zero
character between them (`fingerprintInput_eq_iff`).  Such a text can be parted at any of its zero
characters: two pairs with one input are the same, or one of them has its seam at a later zero
character of the other's content (`joined_eq_iff`).

Then the templates do not hold equally many zero characters, and neither do the contents
(`SeamMoves.count_lt`), so a clash of fingerprints takes a zero character in a template and one in
a content.
-/

namespace SiteTemplates

/-- The seam is moved on to a zero character of the content: what is before that goes over to the
template. -/
def SeamMoves (template content template' content' : String) : Prop :=
  ∃ middle, template' = template ++ "\x00" ++ middle ∧ content = middle ++ "\x00" ++ content'

theorem toList_zero_append (s t : String) :
    (s ++ "\x00" ++ t).toList = s.toList ++ '\x00' :: t.toList := by
  simp

theorem bytesOf_append (s t : String) : bytesOf (s ++ t) = bytesOf s ++ bytesOf t := by
  simp [bytesOf]

theorem bytesOf_zero_append (s t : String) :
    bytesOf (s ++ "\x00" ++ t) = bytesOf s ++ 0 :: bytesOf t := by
  have hzero : bytesOf "\x00" = [0] := by decide
  rw [bytesOf_append, bytesOf_append, hzero, List.append_assoc, List.singleton_append]

/-- A text that is parted at two of its zero characters. -/
theorem eq_or_seam_of_append {s t s' t' : List Char}
    (h : s ++ '\x00' :: t = s' ++ '\x00' :: t') :
    (s = s' ∧ t = t') ∨ (∃ m, s' = s ++ '\x00' :: m ∧ t = m ++ '\x00' :: t') ∨
      ∃ m, s = s' ++ '\x00' :: m ∧ t' = m ++ '\x00' :: t := by
  rcases List.append_eq_append_iff.1 h with ⟨d, hs, ht⟩ | ⟨d, hs, ht⟩
  · cases d with
    | nil => exact .inl ⟨by simp [hs], by simpa using ht⟩
    | cons x m =>
      obtain ⟨rfl, hm⟩ := List.cons.inj ht
      exact .inr (.inl ⟨m, hs, hm⟩)
  · cases d with
    | nil => exact .inl ⟨by simp [hs], by simpa using ht.symm⟩
    | cons x m =>
      obtain ⟨rfl, hm⟩ := List.cons.inj ht
      exact .inr (.inr ⟨m, hs, hm⟩)

section Parts

variable {template content template' content' : String} {context : Value} {key : String}

theorem seamMoves_iff : SeamMoves template content template' content' ↔
    ∃ m, template'.toList = template.toList ++ '\x00' :: m ∧
      content.toList = m ++ '\x00' :: content'.toList := by
  constructor
  · rintro ⟨middle, rfl, rfl⟩
    exact ⟨middle.toList, toList_zero_append _ _, toList_zero_append _ _⟩
  · rintro ⟨m, ht, hc⟩
    refine ⟨String.ofList m, ?_, ?_⟩
    · rw [← String.toList_inj, toList_zero_append, ht, String.toList_ofList]
    · rw [← String.toList_inj, toList_zero_append, hc, String.toList_ofList]

/-- **Two pairs make one text** if they are the same, or have their seams at two zero characters of
it. -/
theorem joined_eq_iff : template ++ "\x00" ++ content = template' ++ "\x00" ++ content' ↔
    (template = template' ∧ content = content') ∨ SeamMoves template content template' content' ∨
      SeamMoves template' content' template content := by
  constructor
  · intro h
    rw [← String.toList_inj, toList_zero_append, toList_zero_append] at h
    rcases eq_or_seam_of_append h with ⟨ht, hc⟩ | hm | hm
    · exact .inl ⟨String.toList_inj.1 ht, String.toList_inj.1 hc⟩
    · exact .inr (.inl (seamMoves_iff.2 hm))
    · exact .inr (.inr (seamMoves_iff.2 hm))
  · rintro (⟨rfl, rfl⟩ | ⟨middle, rfl, rfl⟩ | ⟨middle, rfl, rfl⟩)
    · rfl
    · simp [String.append_assoc]
    · simp [String.append_assoc]

/-- Where the seam moves on, the template gains zero characters and the content loses some. -/
theorem SeamMoves.count_lt (h : SeamMoves template content template' content') :
    template.toList.count '\x00' < template'.toList.count '\x00' ∧
      content'.toList.count '\x00' < content.toList.count '\x00' := by
  obtain ⟨m, ht, hc⟩ := seamMoves_iff.1 h
  rw [ht, hc]
  simp only [List.count_append, List.count_cons_self]
  omega

/-! ### Inputs and fingerprints -/

/-- What is hashed tells the text that template and content make, and no more of them. -/
theorem fingerprintInput_eq_iff {s : List Char} (h : context.canonical = .ok s) :
    fingerprintInput template content context = fingerprintInput template' content' context ↔
      template ++ "\x00" ++ content = template' ++ "\x00" ++ content' := by
  have hinput : ∀ t c, inputOf t c s =
      bytesOf (t ++ "\x00" ++ c) ++ 0 :: bytesOf (String.ofList s) := by
    intro t c
    rw [inputOf, bytesOf_zero_append]
    simp
  rw [fingerprintInput_of_ok template content h, fingerprintInput_of_ok template' content' h,
    Except.ok.injEq, hinput, hinput, List.append_cancel_right_eq]
  exact ⟨bytesOf_inj, fun hs => by rw [hs]⟩

/-- Two fingerprints are the same only if the digests of what is hashed are. -/
theorem exists_inputs_of_fingerprint (h : fingerprint template content context = .ok key)
    (h' : fingerprint template' content' context = .ok key) :
    ∃ s x y, context.canonical = .ok s ∧ fingerprintInput template content context = .ok x ∧
      fingerprintInput template' content' context = .ok y ∧
        Digest.ofBytes x = Digest.ofBytes y := by
  cases hs : context.canonical with
  | error f =>
    rw [fingerprint, fingerprintInput_of_error template content hs] at h
    cases h
  | ok s =>
    have hx := fingerprintInput_of_ok template content hs
    have hy := fingerprintInput_of_ok template' content' hs
    rw [fingerprint, hx] at h
    rw [fingerprint, hy] at h'
    have hkeys := (Except.ok.inj h).trans (Except.ok.inj h').symm
    exact ⟨s, _, _, rfl, hx, hy, digits_inj (String.ofList_inj.1 hkeys)⟩

/-- **What fingerprints tell of their parts.**  For one context, and unless the digest takes the two
inputs that are hashed to one value though they differ, two pairs of template and content have one
fingerprint exactly if they are the same or one has its seam moved on to a zero character of the
other's content.  Where the templates hold equally many zero characters, or the contents do, they
are the same. -/
theorem fingerprint_eq_iff_parts (h : fingerprint template content context = .ok key)
    (hcollision : ∀ x y, fingerprintInput template content context = .ok x →
      fingerprintInput template' content' context = .ok y →
        Digest.ofBytes x = Digest.ofBytes y → x = y) :
    (fingerprint template' content' context = .ok key ↔
      (template = template' ∧ content = content') ∨ SeamMoves template content template' content' ∨
        SeamMoves template' content' template content) ∧
    (template.toList.count '\x00' = template'.toList.count '\x00' ∨
        content.toList.count '\x00' = content'.toList.count '\x00' →
      fingerprint template' content' context = .ok key →
        template = template' ∧ content = content') := by
  have hiff : fingerprint template' content' context = .ok key ↔
      template ++ "\x00" ++ content = template' ++ "\x00" ++ content' := by
    constructor
    · intro h'
      obtain ⟨s, x, y, hs, hx, hy, hdigest⟩ := exists_inputs_of_fingerprint h h'
      rw [← fingerprintInput_eq_iff hs, hx, hy, hcollision x y hx hy hdigest]
    · intro hjoined
      obtain ⟨s, x, y, hs, -⟩ := exists_inputs_of_fingerprint h h
      rw [fingerprint, ← (fingerprintInput_eq_iff hs).2 hjoined, ← fingerprint, h]
  rw [joined_eq_iff] at hiff
  refine ⟨hiff, fun hcount h' => ?_⟩
  rcases hiff.1 h' with hsame | hmoves | hmoves
  · exact hsame
  · have hlt := hmoves.count_lt
    omega
  · have hlt := hmoves.count_lt
    omega

end Parts

theorem canonical_empty : ∃ s, (Value.map []).canonical = .ok s := by
  have hbuilt : (Value.map (([] : List (String × Value)).map Value.namedEntry)).BuiltFrom
      Value.IsShort := .map List.nodup_nil nofun
  exact ⟨_, Value.canonical_eq_written hbuilt⟩

theorem exists_fingerprint_empty (template content : String) :
    ∃ key, fingerprint template content (.map []) = .ok key := by
  obtain ⟨s, hs⟩ := canonical_empty
  exact ⟨_, by rw [fingerprint, fingerprintInput_of_ok template content hs]; rfl⟩

/-- The seam is at the first of three zero characters, or at the second. -/
theorem fingerprint_eq_iff_parts_movedSeam :
    ∃ key, fingerprint "a" "\x00b\x00c" (.map []) = .ok key ∧
      fingerprintInput "a" "\x00b\x00c" (.map []) =
        fingerprintInput "a\x00\x00b" "c" (.map []) ∧
      SeamMoves "a" "\x00b\x00c" "a\x00\x00b" "c" ∧
      fingerprint "a\x00\x00b" "c" (.map []) = .ok key := by
  have hmoves : SeamMoves "a" "\x00b\x00c" "a\x00\x00b" "c" := ⟨"\x00b", by decide, by decide⟩
  obtain ⟨s, hs⟩ := canonical_empty
  have hinputs : fingerprintInput "a" "\x00b\x00c" (.map []) =
      fingerprintInput "a\x00\x00b" "c" (.map []) :=
    (fingerprintInput_eq_iff hs).2 (joined_eq_iff.2 (.inr (.inl hmoves)))
  obtain ⟨key, hkey⟩ := exists_fingerprint_empty "a" "\x00b\x00c"
  refine ⟨key, hkey, hinputs, hmoves, ?_⟩
  refine (fingerprint_eq_iff_parts hkey fun x y hx hy _ => ?_).1.2 (.inr (.inl hmoves))
  exact Except.ok.inj (hx.symm.trans (hinputs.trans hy))

/-- **A zero character hides the seam.**  Two templates with two contents have one fingerprint, and
there is no collision of the digest in it, as one input is hashed. -/
theorem fingerprint_eq_of_zero :
    (∃ key, fingerprint "a\x00b" "c" (.map []) = .ok key ∧
      fingerprint "a" "b\x00c" (.map []) = .ok key) ∧
    (∃ x, fingerprintInput "a\x00b" "c" (.map []) = .ok x ∧
      fingerprintInput "a" "b\x00c" (.map []) = .ok x) ∧
    "a\x00b" ≠ "a" ∧ "c" ≠ "b\x00c" := by
  obtain ⟨s, hs⟩ := canonical_empty
  have hinputs : fingerprintInput "a\x00b" "c" (.map []) =
      fingerprintInput "a" "b\x00c" (.map []) := (fingerprintInput_eq_iff hs).2 (by decide)
  obtain ⟨key, hkey⟩ := exists_fingerprint_empty "a\x00b" "c"
  refine ⟨⟨key, hkey, ?_⟩, ⟨_, fingerprintInput_of_ok _ _ hs, ?_⟩, by decide, by decide⟩
  · rw [fingerprint, ← hinputs, ← fingerprint, hkey]
  · rw [← hinputs, fingerprintInput_of_ok _ _ hs]

end SiteTemplates
