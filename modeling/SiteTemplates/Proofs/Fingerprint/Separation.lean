import SiteTemplates.Fingerprint.Key
import SiteTemplates.Proofs.Fingerprint.Reading
import SiteTemplates.Proofs.Text.Hexadecimal

/-!
# What fingerprints tell apart

Contexts of plain data that differ in the order of keys only have the same canonical text, since
the entries of a map are sorted (`canonical_eq_of_sameUpToOrder`).  Other contexts have other
texts, as a text can be read in one way only.  Neither the bytes of a text nor the digits of a
digest lose anything (`bytesOf_inj`, `digits_inj`).  So where two contexts are not the same, the
fingerprints can be only if the digest takes two inputs to one value.
-/

namespace SiteTemplates

namespace Value

/-! ### The order of keys -/

/-- Entries with different names have one sorted order. -/
theorem mergeSort_eq_of_perm {α : Type} {entries others : List (String × α)}
    (nodup : (entries.map Prod.fst).Nodup) (hperm : entries.Perm others) :
    entries.mergeSort byName = others.mergeSort byName := by
  have hsorted : ∀ l : List (String × α),
      (l.mergeSort byName).Pairwise (fun d e => byName d e = true) := by
    refine List.pairwise_mergeSort (fun d e f hde hef => ?_) (fun d e => ?_)
    · exact decide_eq_true ((of_decide_eq_true hde).trans (of_decide_eq_true hef))
    · rw [byName, byName, Bool.or_eq_true, decide_eq_true_iff, decide_eq_true_iff]
      exact le_total d.1 e.1
  have hsame : (entries.mergeSort byName).Perm (others.mergeSort byName) :=
    (List.mergeSort_perm _ _).trans (hperm.trans (List.mergeSort_perm _ _).symm)
  refine hsame.eq_of_pairwise (fun d e hd he hde hed => ?_) (hsorted entries) (hsorted others)
  have hname : d.1 = e.1 := le_antisymm (of_decide_eq_true hde) (of_decide_eq_true hed)
  exact List.inj_on_of_nodup_map nodup (List.mem_mergeSort.1 hd)
    (hperm.mem_iff.2 (List.mem_mergeSort.1 he)) hname

theorem map_fst_withOutcome (entries : List (String × Value)) :
    (entries.map withOutcome).map Prod.fst = entries.map Prod.fst := by
  rw [List.map_map]
  rfl

theorem mem_withOutcome_of_forall {entries others : List (String × Value)}
    (h : ∀ name v, (name, v) ∈ entries → ∃ w, (name, w) ∈ others ∧ v.canonical = w.canonical)
    {e : String × Except Failure (List Char)} (he : e ∈ entries.map withOutcome) :
    e ∈ others.map withOutcome := by
  obtain ⟨⟨name, v⟩, hv, rfl⟩ := List.mem_map.1 he
  obtain ⟨w, hw, hsame⟩ := h name v hv
  exact List.mem_map.2 ⟨(name, w), hw, Prod.ext rfl hsame.symm⟩

/-- Entries with the same names and the same outcomes are sorted to the same list. -/
theorem mergeSort_withOutcome_eq {entries others : List (String × Value)}
    (nodup : (entries.map Prod.fst).Nodup) (nodup' : (others.map Prod.fst).Nodup)
    (keys : ∀ name, (∃ v, (name, v) ∈ entries) ↔ ∃ w, (name, w) ∈ others)
    (values : ∀ name v w, (name, v) ∈ entries → (name, w) ∈ others → v.canonical = w.canonical) :
    (entries.map withOutcome).mergeSort byName = (others.map withOutcome).mergeSort byName := by
  have hnames : ∀ {l : List (String × Value)}, (l.map Prod.fst).Nodup →
      ((l.map withOutcome).map Prod.fst).Nodup := by
    intro l h
    rw [map_fst_withOutcome]
    exact h
  have hmem : ∀ e, e ∈ entries.map withOutcome ↔ e ∈ others.map withOutcome := by
    refine fun e => ⟨mem_withOutcome_of_forall fun name v hv => ?_,
      mem_withOutcome_of_forall fun name w hw => ?_⟩
    · obtain ⟨w, hw⟩ := (keys name).1 ⟨v, hv⟩
      exact ⟨w, hw, values name v w hv hw⟩
    · obtain ⟨v, hv⟩ := (keys name).2 ⟨w, hw⟩
      exact ⟨v, hv, (values name v w hv hw).symm⟩
  have hperm : (entries.map withOutcome).Perm (others.map withOutcome) :=
    (List.perm_ext_iff_of_nodup (.of_map _ (hnames nodup)) (.of_map _ (hnames nodup'))).2 hmem
  exact mergeSort_eq_of_perm (hnames nodup) hperm

/-- **The order of keys** does not come into the canonical text. -/
theorem canonical_eq_of_sameUpToOrder {a b : Value} (ha : a.BuiltFrom fun _ => True)
    (hb : b.BuiltFrom fun _ => True) (h : a.SameUpToOrder b) : a.canonical = b.canonical := by
  induction h with
  | null => rfl
  | bool x => rfl
  | int n => rfl
  | text s => rfl
  | @list items others length _ ih =>
    cases ha with
    | list hitems =>
      cases hb with
      | list hothers =>
        have htexts : List.Forall₂ (fun v w => v.canonical = w.canonical) items others := by
          refine List.forall₂_iff_zip.2 ⟨length, fun {v w} hmem => ?_⟩
          obtain ⟨hv, hw⟩ := List.of_mem_zip hmem
          exact ih v w hmem (hitems v hv) (hothers w hw)
        have hmap : items.map canonical = others.map canonical := by
          rwa [← List.forall₂_eq_eq_eq, List.forall₂_map_left_iff, List.forall₂_map_right_iff]
        rw [canonical, canonical, canonicalAll_eq, canonicalAll_eq, hmap]
  | map keys _ ih =>
    cases ha with
    | @map entries nodup hentries =>
      cases hb with
      | @map others nodup' hothers =>
        have hmem : ∀ {name v} {l : List (String × Value)},
            (name, v) ∈ l → (text name, v) ∈ l.map namedEntry :=
          fun h => mem_map_namedEntry.2 ⟨_, rfl, h⟩
        have hnamed : ∀ name (l : List (String × Value)),
            (∃ v, (text name, v) ∈ l.map namedEntry) ↔ ∃ v, (name, v) ∈ l := by
          refine fun name l => exists_congr fun v => ⟨fun h => ?_, hmem⟩
          obtain ⟨other, hname, h⟩ := mem_map_namedEntry.1 h
          rw [Value.text.inj hname]
          exact h
        have hkeys : ∀ name, (∃ v, (name, v) ∈ entries) ↔ ∃ w, (name, w) ∈ others := by
          intro name
          rw [← hnamed name entries, keys, hnamed name others]
        have hvalues : ∀ name v w, (name, v) ∈ entries → (name, w) ∈ others →
            v.canonical = w.canonical := fun name v w hv hw =>
          ih (text name) v w (hmem hv) (hmem hw) (hentries _ hv) (hothers _ hw)
        rw [canonical_map_named, canonical_map_named,
          mergeSort_withOutcome_eq nodup nodup' hkeys hvalues]

/-! ### Members of maps -/

theorem namedEntry_injective :
    Function.Injective (namedEntry : String × Value → Value × Value) := by
  rintro ⟨name, v⟩ ⟨other, w⟩ h
  cases h
  rfl

/-- The values of a map are of the kind that the map is of. -/
theorem BuiltFrom.of_map {allowed : Int → Prop} {entries : List (String × Value)}
    (h : (Value.map (entries.map namedEntry)).BuiltFrom allowed) :
    ∀ e ∈ entries, e.2.BuiltFrom allowed := by
  generalize hv : Value.map (entries.map namedEntry) = v at h
  cases h with
  | @map others _ hothers =>
    rw [List.map_injective_iff.2 namedEntry_injective (Value.map.inj hv)]
    exact hothers
  | _ => cases hv

/-- Maps that are the same have the same values under their names. -/
theorem SameUpToOrder.of_map {entries others : List (String × Value)} {name : String} {v w : Value}
    (h : SameUpToOrder (.map (entries.map namedEntry)) (.map (others.map namedEntry)))
    (hv : (name, v) ∈ entries) (hw : (name, w) ∈ others) : v.SameUpToOrder w := by
  cases h with
  | map _ values =>
    exact values (.text name) v w (mem_map_namedEntry.2 ⟨name, rfl, hv⟩)
      (mem_map_namedEntry.2 ⟨name, rfl, hw⟩)

theorem SameUpToOrder.int_inj {m n : Int} (h : SameUpToOrder (.int m) (.int n)) : m = n := by
  cases h
  rfl

end Value

/-! ### Bytes and digits -/

theorem bytesOf_inj {s t : String} (h : bytesOf s = bytesOf t) : s = t := by
  have hbytes : s.toUTF8 = t.toUTF8 := ByteArray.ext (Array.toList_inj.1 h)
  exact String.toByteArray_inj.1 hbytes

/-- The digits of a fingerprint tell the bytes. -/
theorem digits_inj {bs cs : List UInt8}
    (h : bs.flatMap (fun b => Text.hexadecimal 2 b.toNat) =
      cs.flatMap (fun b => Text.hexadecimal 2 b.toNat)) : bs = cs := by
  have hlt : ∀ b : UInt8, b.toNat < 16 ^ 2 := fun b => b.toNat_lt
  have hne : ∀ (b : UInt8) (r : List Char), Text.hexadecimal 2 b.toNat ++ r ≠ [] := by
    intro b r hnil
    have hlength := Text.length_hexadecimal (by decide : 0 < 2) (hlt b)
    rw [(List.append_eq_nil_iff.1 hnil).1] at hlength
    cases hlength
  induction bs generalizing cs with
  | nil =>
    cases cs with
    | nil => rfl
    | cons c cs => exact absurd h.symm (hne c _)
  | cons b bs ih =>
    cases cs with
    | nil => exact absurd h (hne b _)
    | cons c cs =>
      rw [List.flatMap_cons, List.flatMap_cons] at h
      obtain ⟨hbyte, hrest⟩ := Text.hexadecimal_append_inj (by decide) (hlt b) (hlt c) h
      rw [UInt8.toNat_inj.1 hbyte, ih hrest]

/-! ### Inputs and fingerprints -/

section Inputs

variable (template content : String) {a b : Value}

def inputOf (s : List Char) : List UInt8 :=
  bytesOf template ++ 0 :: (bytesOf content ++ 0 :: bytesOf (String.ofList s))

theorem inputOf_inj {s t : List Char}
    (h : inputOf template content s = inputOf template content t) : s = t := by
  have hcontent := (List.cons.inj (List.append_cancel_left h)).2
  have htext := (List.cons.inj (List.append_cancel_left hcontent)).2
  exact String.ofList_inj.1 (bytesOf_inj htext)

theorem fingerprintInput_of_ok {s : List Char} (h : a.canonical = .ok s) :
    fingerprintInput template content a = .ok (inputOf template content s) := by
  rw [fingerprintInput, h]
  rfl

theorem fingerprintInput_of_error {f : Failure} (h : a.canonical = .error f) :
    fingerprintInput template content a = .error f := by
  rw [fingerprintInput, h]
  rfl

/-- The input tells the context, up to the order of keys. -/
theorem sameUpToOrder_of_fingerprintInput (ha : a.BuiltFrom Value.IsShort)
    (hb : b.BuiltFrom fun _ => True)
    (h : fingerprintInput template content a = fingerprintInput template content b) :
    a.SameUpToOrder b := by
  rw [fingerprintInput_of_ok template content (Value.canonical_eq_written ha)] at h
  rcases Value.builtFrom_or_badNumber hb with hb | hbad
  · rw [fingerprintInput_of_ok template content (Value.canonical_eq_written hb)] at h
    have hwritten := inputOf_inj template content (Except.ok.inj h)
    have hread : a.written ++ [] = b.written ++ [] := by rw [hwritten]
    exact (Value.written_append_inj ha hb Value.ended_nil Value.ended_nil hread).1
  · rw [fingerprintInput_of_error template content hbad] at h
    cases h

/-- **What fingerprints tell apart.**  For contexts of plain data there is something to take the
digest of if and only if no integer is too long to be written, and no fingerprint otherwise.  The
inputs of the digest are the same if and only if the contexts are, up to the order of keys.  So
contexts that differ in this order have one fingerprint, and others have two, unless the digest
takes their inputs, which differ, to one value. -/
theorem fingerprint_separates (ha : a.BuiltFrom fun _ => True) (hb : b.BuiltFrom fun _ => True) :
    ((∃ input, fingerprintInput template content a = .ok input) ↔ a.BuiltFrom Value.IsShort) ∧
    (¬ a.BuiltFrom Value.IsShort → fingerprint template content a = .error .badNumber) ∧
    (a.BuiltFrom Value.IsShort →
      (fingerprintInput template content a = fingerprintInput template content b ↔
        a.SameUpToOrder b)) ∧
    (a.SameUpToOrder b → fingerprint template content a = fingerprint template content b) ∧
    (a.BuiltFrom Value.IsShort → fingerprint template content a = fingerprint template content b →
      a.SameUpToOrder b ∨ ∃ x y, fingerprintInput template content a = .ok x ∧
        fingerprintInput template content b = .ok y ∧ x ≠ y ∧
          Digest.ofBytes x = Digest.ofBytes y) := by
  have hlong : ¬ a.BuiltFrom Value.IsShort → a.canonical = .error .badNumber :=
    (Value.builtFrom_or_badNumber ha).resolve_left
  have hordered : a.SameUpToOrder b →
      fingerprintInput template content a = fingerprintInput template content b := by
    intro h
    rw [fingerprintInput, fingerprintInput, Value.canonical_eq_of_sameUpToOrder ha hb h]
  refine ⟨⟨?_, ?_⟩, ?_, ?_, ?_, ?_⟩
  · rintro ⟨input, hinput⟩
    by_contra h
    rw [fingerprintInput_of_error template content (hlong h)] at hinput
    cases hinput
  · intro h
    exact ⟨_, fingerprintInput_of_ok template content (Value.canonical_eq_written h)⟩
  · intro h
    rw [fingerprint, fingerprintInput_of_error template content (hlong h)]
    rfl
  · intro h
    exact ⟨sameUpToOrder_of_fingerprintInput template content h hb, hordered⟩
  · intro h
    rw [fingerprint, fingerprint, hordered h]
  · intro h heq
    have hx := fingerprintInput_of_ok template content (Value.canonical_eq_written h)
    rcases Value.builtFrom_or_badNumber hb with hb' | hbad
    · have hy := fingerprintInput_of_ok template content (Value.canonical_eq_written hb')
      by_cases hxy : inputOf template content a.written = inputOf template content b.written
      · left
        exact sameUpToOrder_of_fingerprintInput template content h hb (by rw [hx, hy, hxy])
      · right
        rw [fingerprint, fingerprint, hx, hy] at heq
        exact ⟨_, _, hx, hy, hxy, digits_inj (String.ofList_inj.1 (Except.ok.inj heq))⟩
    · rw [fingerprint, fingerprint, hx, fingerprintInput_of_error template content hbad] at heq
      cases heq

end Inputs

def twoKeys (d e : String × Value) : Value := .map ([d, e].map Value.namedEntry)

theorem builtFrom_twoKeys {allowed : Int → Prop} {d e : String × Value} (hne : d.1 ≠ e.1)
    (hd : d.2.BuiltFrom allowed) (he : e.2.BuiltFrom allowed) :
    (twoKeys d e).BuiltFrom allowed := by
  refine .map (List.nodup_cons.2 ⟨?_, List.nodup_singleton _⟩) fun f hf => ?_
  · exact fun h => hne (List.mem_singleton.1 h)
  · rcases List.mem_cons.1 hf with rfl | hf
    · exact hd
    · rw [List.mem_singleton.1 hf]
      exact he

/-- The order of the keys does not matter, but whether there is one or true under a key. -/
theorem fingerprint_separates_twoKeys :
    let one := twoKeys ("n", .int 1) ("s", .text "")
    let reordered := twoKeys ("s", .text "") ("n", .int 1)
    let truth := twoKeys ("n", .bool true) ("s", .text "")
    one.BuiltFrom Value.IsShort ∧ fingerprint "" "" one = fingerprint "" "" reordered ∧
      fingerprintInput "" "" one ≠ fingerprintInput "" "" truth := by
  intro one reordered truth
  have hten : ∀ {k}, k ≠ 0 → 1 < tenTo k := fun hk => Nat.one_lt_pow hk (by decide)
  have hshort : Value.IsShort 1 := hten (by decide)
  have hone : one.BuiltFrom Value.IsShort := builtFrom_twoKeys (by decide) (.int hshort) (.text "")
  have hone' : one.BuiltFrom fun _ => True := hone.mono fun _ _ => trivial
  have hreordered : reordered.BuiltFrom fun _ => True :=
    builtFrom_twoKeys (by decide) (.text "") (.int trivial)
  have htruth : truth.BuiltFrom fun _ => True :=
    builtFrom_twoKeys (by decide) (.bool true) (.text "")
  have hsame : one.SameUpToOrder reordered := by
    refine Value.sameUpToOrder_of_members (by decide) (.refl _) (.swap _ _ _) ?_
    exact .cons ⟨rfl, .int 1⟩ (.cons ⟨rfl, .text ""⟩ .nil)
  obtain ⟨-, -, -, hequal, -⟩ := fingerprint_separates "" "" hone' hreordered
  obtain ⟨-, -, hinputs, -, -⟩ := fingerprint_separates "" "" hone' htruth
  refine ⟨hone, hequal hsame, fun h => ?_⟩
  have hvalue : (Value.int 1).SameUpToOrder (.bool true) :=
    ((hinputs hone).1 h).of_map List.mem_cons_self List.mem_cons_self
  cases hvalue

/-- An integer with one digit too many has no text: the contexts with it and with the next one are
not told apart. -/
theorem fingerprint_of_tooLong :
    let long (n : Nat) := twoKeys ("n", .int (tenTo maxDigits + n : Nat)) ("s", .text "")
    (∀ n, (long n).BuiltFrom fun _ => True) ∧ ¬ (long 0).SameUpToOrder (long 1) ∧
      fingerprintInput "" "" (long 0) = .error .badNumber ∧
      fingerprintInput "" "" (long 0) = fingerprintInput "" "" (long 1) := by
  intro long
  have hname : "n" ≠ "s" := by decide
  have hplain : ∀ n, (long n).BuiltFrom fun _ => True :=
    fun n => builtFrom_twoKeys hname (.int trivial) (.text "")
  have hbad : ∀ n, fingerprintInput "" "" (long n) = .error .badNumber := by
    intro n
    have hlong : ¬ (long n).BuiltFrom Value.IsShort := by
      intro h
      cases Value.BuiltFrom.of_map h _ List.mem_cons_self with
      | int h => exact absurd h (Nat.not_lt.2 (Nat.le_add_right _ n))
    exact fingerprintInput_of_error "" ""
      ((Value.builtFrom_or_badNumber (hplain n)).resolve_left hlong)
  refine ⟨hplain, fun h => ?_, hbad 0, by rw [hbad, hbad]⟩
  have hvalue := (Value.SameUpToOrder.of_map h List.mem_cons_self List.mem_cons_self).int_inj
  exact absurd (Nat.add_left_cancel (Int.ofNat.inj hvalue)) (by decide)

end SiteTemplates
