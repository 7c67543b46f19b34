import Mathlib.Data.List.Forall2
import Mathlib.Data.List.Nodup
import SiteTemplates.Proofs.Fingerprint.Quotation
import SiteTemplates.Proofs.Fingerprint.Written
import SiteTemplates.Proofs.Lists

/-!
# The canonical text can be read in one way only

From the canonical text of plain data the data can be told, up to the order in which the keys of its
maps came (`written_append_inj`).  The statement is about a text with something behind it, a comma
or a closing bracket or nothing (`Ended`): so it can be used for the items of a list one after the
other (`bracketed_append_inj`), and an integer, which does not mark its own end, ends there.

The first character of a text tells what kind of data it is (`exists_first`).  No text begins with a
closing bracket, so an empty list cannot be taken for one with items.
-/

namespace SiteTemplates

namespace Value

open Text

variable {r r' : List Char}

/-! ### The same data -/

/-- The values are the same, up to the order in which the keys of maps came: lists item by item,
maps by having the same keys and under each of them the same value. -/
inductive SameUpToOrder : Value → Value → Prop
  | null : SameUpToOrder .null .null
  | bool (b : Bool) : SameUpToOrder (.bool b) (.bool b)
  | int (n : Int) : SameUpToOrder (.int n) (.int n)
  | text (s : String) : SameUpToOrder (.text s) (.text s)
  | list {items others : List Value} (length : items.length = others.length)
      (h : ∀ v w, (v, w) ∈ items.zip others → SameUpToOrder v w) :
      SameUpToOrder (.list items) (.list others)
  | map {entries others : List (Value × Value)}
      (keys : ∀ k, (∃ v, (k, v) ∈ entries) ↔ ∃ v, (k, v) ∈ others)
      (values : ∀ k v w, (k, v) ∈ entries → (k, w) ∈ others → SameUpToOrder v w) :
      SameUpToOrder (.map entries) (.map others)

theorem sameUpToOrder_of_forall₂ {items others : List Value}
    (h : List.Forall₂ SameUpToOrder items others) : SameUpToOrder (.list items) (.list others) := by
  obtain ⟨hlength, hitems⟩ := List.forall₂_iff_zip.1 h
  exact .list hlength fun _ _ hmem => hitems hmem

def SameMember (d e : String × Value) : Prop := d.1 = e.1 ∧ d.2.SameUpToOrder e.2

theorem mem_map_namedEntry {entries : List (String × Value)} {k v : Value} :
    (k, v) ∈ entries.map namedEntry ↔ ∃ name, k = .text name ∧ (name, v) ∈ entries := by
  rw [List.mem_map]
  constructor
  · rintro ⟨⟨name, w⟩, he, h⟩
    cases h
    exact ⟨name, rfl, he⟩
  · rintro ⟨name, rfl, he⟩
    exact ⟨(name, v), he, rfl⟩

/-- Maps are the same if their entries are, in some order of each. -/
theorem sameUpToOrder_of_members {entries others sorted sorted' : List (String × Value)}
    (nodup : (others.map Prod.fst).Nodup) (hperm : sorted.Perm entries)
    (hperm' : sorted'.Perm others) (h : List.Forall₂ SameMember sorted sorted') :
    SameUpToOrder (.map (entries.map namedEntry)) (.map (others.map namedEntry)) := by
  have hright : ∀ d ∈ entries, ∃ e ∈ others, SameMember d e := by
    intro d hd
    obtain ⟨e, he, hde⟩ := exists_of_forall₂ h (hperm.mem_iff.2 hd)
    exact ⟨e, hperm'.mem_iff.1 he, hde⟩
  have hleft : ∀ e ∈ others, ∃ d ∈ entries, SameMember d e := by
    intro e he
    obtain ⟨d, hd, hde⟩ := exists_of_forall₂ h.flip (hperm'.mem_iff.2 he)
    exact ⟨d, hperm.mem_iff.1 hd, hde⟩
  refine .map (fun k => ⟨?_, ?_⟩) ?_
  · rintro ⟨v, hv⟩
    obtain ⟨name, rfl, hd⟩ := mem_map_namedEntry.1 hv
    obtain ⟨⟨other, w⟩, he, rfl, -⟩ := hright _ hd
    exact ⟨w, mem_map_namedEntry.2 ⟨_, rfl, he⟩⟩
  · rintro ⟨w, hw⟩
    obtain ⟨name, rfl, he⟩ := mem_map_namedEntry.1 hw
    obtain ⟨⟨other, v⟩, hd, hname, -⟩ := hleft _ he
    exact ⟨v, mem_map_namedEntry.2 ⟨other, congrArg Value.text hname.symm, hd⟩⟩
  · intro k v w hv hw
    obtain ⟨name, rfl, hd⟩ := mem_map_namedEntry.1 hv
    obtain ⟨name', hname, he⟩ := mem_map_namedEntry.1 hw
    obtain rfl : name = name' := Value.text.inj hname
    obtain ⟨⟨other, w'⟩, he', hother, hsame⟩ := hright _ hd
    obtain rfl : name = other := hother
    -- each name comes once, so that its entry is the one that was asked for
    have hone := List.inj_on_of_nodup_map nodup he he' rfl
    rw [(Prod.mk.inj hone).2]
    exact hsame

/-! ### The end of a value -/

def Ended (r : List Char) : Prop := ∀ c ∈ r.head?, c = ',' ∨ c = ']' ∨ c = '}'

theorem ended_nil : Ended [] := fun _ h => nomatch h

theorem ended_cons {c : Char} (h : c = ',' ∨ c = ']' ∨ c = '}') (r : List Char) :
    Ended (c :: r) := by
  intro d hd
  rw [← Option.some.inj hd]
  exact h

def isNumeral (c : Char) : Bool := c == '-' || c.isDigit

theorem toList_toString (n : Int) : (toString n).toList =
    if 0 ≤ n then Nat.toDigits 10 n.toNat else '-' :: Nat.toDigits 10 (-n).toNat := by
  rw [Int.toString_eq_repr, Int.repr_eq_if]
  split
  · exact Nat.toList_repr
  · rw [String.toList_append, Nat.toList_repr]
    rfl

theorem isNumeral_of_mem_toDigits {c : Char} {m : Nat} (h : c ∈ Nat.toDigits 10 m) :
    isNumeral c = true := by
  rw [isNumeral, Nat.isDigit_of_mem_toDigits (by decide) (by decide) h, Bool.or_true]

theorem isNumeral_of_mem_toString {n : Int} {c : Char} (h : c ∈ (toString n).toList) :
    isNumeral c = true := by
  rw [toList_toString] at h
  split at h
  · exact isNumeral_of_mem_toDigits h
  · rcases List.mem_cons.1 h with rfl | h
    · rfl
    · exact isNumeral_of_mem_toDigits h

theorem toString_ne_nil (n : Int) : (toString n).toList ≠ [] := by
  rw [toList_toString]
  split
  · exact Nat.toDigits_ne_nil
  · exact List.cons_ne_nil _ _

theorem eq_of_toString_eq {m n : Int} (h : (toString m).toList = (toString n).toList) : m = n := by
  have hdigits : ∀ k l : Nat, Nat.toDigits 10 k = Nat.toDigits 10 l → k = l := by
    intro k l h
    have hread := congrArg (fun s => Nat.ofDigitChars 10 s 0) h
    simpa only [Nat.ofDigitChars_ten_toDigits] using hread
  have hminus : ∀ (k : Nat) (s : List Char), Nat.toDigits 10 k ≠ '-' :: s := by
    intro k s h
    have hmem : '-' ∈ Nat.toDigits 10 k := by
      rw [h]
      exact List.mem_cons_self
    have hdigit : '-'.isDigit = true := Nat.isDigit_of_mem_toDigits (by decide) (by decide) hmem
    exact absurd hdigit (by decide)
  rw [toList_toString, toList_toString] at h
  split at h <;> split at h
  · have := hdigits _ _ h
    omega
  · exact absurd h (hminus _ _)
  · exact absurd h.symm (hminus _ _)
  · have := hdigits _ _ (List.cons.inj h).2
    omega

theorem takeWhile_isNumeral (n : Int) (hr : Ended r) :
    ((toString n).toList ++ r).takeWhile isNumeral = (toString n).toList := by
  have hrest : r.takeWhile isNumeral = [] := by
    cases r with
    | nil => rfl
    | cons c r =>
      refine List.takeWhile_cons_of_neg ?_
      rcases hr c rfl with rfl | rfl | rfl <;> decide
  rw [List.takeWhile_append_of_pos fun c hc => isNumeral_of_mem_toString hc, hrest, List.append_nil]

/-- An integer ends where its digits end. -/
theorem toString_append_inj {m n : Int} (hr : Ended r) (hr' : Ended r')
    (h : (toString m).toList ++ r = (toString n).toList ++ r') : m = n ∧ r = r' := by
  have hdigits : (toString m).toList = (toString n).toList := by
    rw [← takeWhile_isNumeral m hr, h, takeWhile_isNumeral n hr']
  rw [hdigits] at h
  exact ⟨eq_of_toString_eq hdigits, List.append_cancel_left h⟩

/-! ### Items in brackets -/

def following (closing : Char) (texts : List (List Char)) (r : List Char) : List Char :=
  texts.flatMap (fun s => ',' :: ' ' :: s) ++ closing :: r

theorem following_cons (closing : Char) (s : List Char) (texts : List (List Char)) (r : List Char) :
    following closing (s :: texts) r = ',' :: ' ' :: (s ++ following closing texts r) := by
  simp [following]

theorem joined_cons_append (closing : Char) (s : List Char) (texts : List (List Char))
    (r : List Char) :
    joined [',', ' '] (s :: texts) ++ closing :: r = s ++ following closing texts r := by
  have hjoined : joined [',', ' '] (s :: texts) =
      s ++ texts.flatMap (fun s => ',' :: ' ' :: s) := by
    induction texts generalizing s with
    | nil => simp [joined]
    | cons t texts ih =>
      unfold joined at ih ⊢
      rw [List.intercalate_cons_cons, ih t, List.flatMap_cons]
      simp
  rw [hjoined, following, List.append_assoc]

theorem ended_following {closing : Char} (h : closing = ']' ∨ closing = '}')
    (texts : List (List Char)) (r : List Char) : Ended (following closing texts r) := by
  cases texts with
  | nil => exact ended_cons (.inr h) r
  | cons s texts => exact ended_cons (.inl rfl) _

section Items

variable {α : Type} {P : α → α → Prop} {text : α → List Char} {closing : Char}

/-- Items are read one after the other, as long as they can be told apart. -/
theorem following_append_inj (hclosing : closing = ']' ∨ closing = '}') {x y : α} {xs ys : List α}
    (hitem : ∀ x' ∈ x :: xs, ∀ y' ∈ y :: ys, ∀ r r', Ended r → Ended r' →
      text x' ++ r = text y' ++ r' → P x' y' ∧ r = r')
    (h : text x ++ following closing (xs.map text) r =
      text y ++ following closing (ys.map text) r') :
    List.Forall₂ P (x :: xs) (y :: ys) ∧ r = r' := by
  induction xs generalizing x y ys with
  | nil =>
    obtain ⟨hxy, hrest⟩ := hitem x List.mem_cons_self y List.mem_cons_self _ _
      (ended_following hclosing _ r) (ended_following hclosing _ r') h
    cases ys with
    | nil => exact ⟨.cons hxy .nil, (List.cons.inj hrest).2⟩
    | cons y' ys =>
      have hcomma : closing = ',' := (List.cons.inj hrest).1
      rcases hclosing with rfl | rfl <;> cases hcomma
  | cons x' xs ih =>
    obtain ⟨hxy, hrest⟩ := hitem x List.mem_cons_self y List.mem_cons_self _ _
      (ended_following hclosing _ r) (ended_following hclosing _ r') h
    cases ys with
    | nil =>
      have hcomma : ',' = closing := (List.cons.inj hrest).1
      rcases hclosing with rfl | rfl <;> cases hcomma
    | cons y' ys =>
      have hnext : text x' ++ following closing (xs.map text) r =
          text y' ++ following closing (ys.map text) r' := by
        rw [List.map_cons, List.map_cons, following_cons, following_cons] at hrest
        exact (List.cons.inj (List.cons.inj hrest).2).2
      obtain ⟨hitems, hr⟩ := ih (fun a ha b hb => hitem a (List.mem_cons_of_mem x ha) b
        (List.mem_cons_of_mem y hb)) hnext
      exact ⟨.cons hxy hitems, hr⟩

/-- **Items in brackets** are read one after the other, if they can be told apart and none begins
like the closing bracket. -/
theorem bracketed_append_inj {opening : Char} (hclosing : closing = ']' ∨ closing = '}')
    {xs ys : List α}
    (hitem : ∀ x ∈ xs, ∀ y ∈ ys, ∀ r r', Ended r → Ended r' →
      text x ++ r = text y ++ r' → P x y ∧ r = r')
    (hopen : ∀ x, x ∈ xs ∨ x ∈ ys → ∀ r r', closing :: r ≠ text x ++ r')
    (h : bracketed opening closing (xs.map text) ++ r =
      bracketed opening closing (ys.map text) ++ r') :
    List.Forall₂ P xs ys ∧ r = r' := by
  have hbracketed : ∀ texts r, bracketed opening closing texts ++ r =
      opening :: (joined [',', ' '] texts ++ closing :: r) := by
    intro texts r
    simp [bracketed]
  rw [hbracketed, hbracketed] at h
  have hbody := (List.cons.inj h).2
  cases xs with
  | nil =>
    cases ys with
    | nil => exact ⟨.nil, (List.cons.inj hbody).2⟩
    | cons y ys =>
      rw [List.map_cons, joined_cons_append] at hbody
      exact absurd hbody (hopen y (.inr List.mem_cons_self) r _)
  | cons x xs =>
    cases ys with
    | nil =>
      rw [List.map_cons, joined_cons_append] at hbody
      exact absurd hbody.symm (hopen x (.inl List.mem_cons_self) r' _)
    | cons y ys =>
      rw [List.map_cons, List.map_cons, joined_cons_append, joined_cons_append] at hbody
      exact following_append_inj hclosing hitem hbody

end Items

/-! ### The first character -/

inductive Kind where
  | nothing
  | truth
  | integer
  | text
  | list
  | map
deriving DecidableEq

def kind? : Value → Option Kind
  | null => some .nothing
  | bool _ => some .truth
  | int _ => some .integer
  | text _ => some .text
  | list _ => some .list
  | map _ => some .map
  | _ => none

/-- The kind of the data whose text begins with a character. -/
def kindOfFirst? (c : Char) : Option Kind :=
  if c = 'n' then some .nothing
  else if c = 't' ∨ c = 'f' then some .truth
  else if c = '"' then some .text
  else if c = '[' then some .list
  else if c = '{' then some .map
  else if isNumeral c then some .integer
  else none

theorem kindOfFirst?_of_isNumeral {c : Char} (h : isNumeral c = true) :
    kindOfFirst? c = some .integer := by
  have hne : ∀ d : Char, isNumeral d = false → c ≠ d := by
    rintro d hd rfl
    rw [h] at hd
    cases hd
  have hletters : ¬ (c = 't' ∨ c = 'f') := by
    rintro (h | h)
    · exact hne 't' (by decide) h
    · exact hne 'f' (by decide) h
  unfold kindOfFirst?
  rw [if_neg (hne 'n' (by decide)), if_neg hletters, if_neg (hne '"' (by decide)),
    if_neg (hne '[' (by decide)), if_neg (hne '{' (by decide)), if_pos h]

theorem BuiltFrom.kind?_ne_none {allowed : Int → Prop} {v : Value} (h : v.BuiltFrom allowed) :
    v.kind? ≠ none := by
  cases h <;> exact Option.some_ne_none _

/-- **The first character** tells the kind of the data. -/
theorem exists_first {v : Value} (h : v.BuiltFrom IsShort) :
    ∃ c s, v.written = c :: s ∧ kindOfFirst? c = v.kind? := by
  cases h with
  | null => exact ⟨'n', "ull".toList, written_of_ok (by rw [canonical]; rfl), by decide⟩
  | bool b =>
    cases b with
    | true => exact ⟨'t', "rue".toList, written_bool true, by decide⟩
    | false => exact ⟨'f', "alse".toList, written_bool false, by decide⟩
  | @int n h =>
    cases hs : (toString n).toList with
    | nil => exact absurd hs (toString_ne_nil n)
    | cons c s =>
      have hmem : c ∈ (toString n).toList := by
        rw [hs]
        exact List.mem_cons_self
      have hnumeral := isNumeral_of_mem_toString hmem
      exact ⟨c, s, by rw [written_int h, hs], kindOfFirst?_of_isNumeral hnumeral⟩
  | text s => exact ⟨'"', _, written_text s, rfl⟩
  | list h => exact ⟨'[', _, by rw [written_list h]; rfl, rfl⟩
  | map nodup h => exact ⟨'{', _, by rw [written_map h]; rfl, rfl⟩

theorem closing_ne_written {v : Value} (h : v.BuiltFrom IsShort) (r r' : List Char) :
    ']' :: r ≠ v.written ++ r' := by
  obtain ⟨c, s, hs, hkind⟩ := exists_first h
  intro heq
  rw [hs] at heq
  obtain rfl := (List.cons.inj heq).1
  exact h.kind?_ne_none (hkind.symm.trans (by decide))

theorem kind?_eq_of_written_append {a b : Value} (ha : a.BuiltFrom IsShort)
    (hb : b.BuiltFrom IsShort) (h : a.written ++ r = b.written ++ r') : a.kind? = b.kind? := by
  obtain ⟨c, s, hs, hkind⟩ := exists_first ha
  obtain ⟨d, t, ht, hkind'⟩ := exists_first hb
  rw [hs, ht] at h
  rw [← hkind, ← hkind', (List.cons.inj h).1]

/-! ### Reading -/

theorem writtenMember_append (e : String × Value) (r : List Char) : writtenMember e ++ r =
    canonicalText e.1.toList ++ ':' :: ' ' :: (e.2.written ++ r) := by
  rw [writtenMember, List.append_assoc]
  rfl

/-- **Unique reading.**  The canonical text tells the data, up to the order of keys, and where it
ends. -/
theorem written_append_inj {a b : Value} (ha : a.BuiltFrom IsShort) (hb : b.BuiltFrom IsShort)
    (hr : Ended r) (hr' : Ended r') (h : a.written ++ r = b.written ++ r') :
    a.SameUpToOrder b ∧ r = r' := by
  have hkind := kind?_eq_of_written_append ha hb h
  induction ha generalizing b r r' with
  | null =>
    cases hb with
    | null => exact ⟨.null, List.append_cancel_left h⟩
    | _ => cases hkind
  | bool x =>
    cases hb with
    | bool y =>
      rw [written_bool, written_bool] at h
      cases x <;> cases y
      · exact ⟨.bool false, List.append_cancel_left h⟩
      · exact absurd (List.cons.inj h).1 (by decide)
      · exact absurd (List.cons.inj h).1 (by decide)
      · exact ⟨.bool true, List.append_cancel_left h⟩
    | _ => cases hkind
  | @int m hm =>
    cases hb with
    | @int n hn =>
      rw [written_int hm, written_int hn] at h
      obtain ⟨rfl, hrest⟩ := toString_append_inj hr hr' h
      exact ⟨.int m, hrest⟩
    | _ => cases hkind
  | text s =>
    cases hb with
    | text t =>
      rw [written_text, written_text] at h
      obtain ⟨hst, hrest⟩ := canonicalText_append_inj h
      obtain rfl := String.toList_injective hst
      exact ⟨.text s, hrest⟩
    | _ => cases hkind
  | @list items hitems ih =>
    cases hb with
    | @list others hothers =>
      rw [written_list hitems, written_list hothers] at h
      have hopen : ∀ v, v ∈ items ∨ v ∈ others → ∀ r r', ']' :: r ≠ v.written ++ r' := by
        intro v hv
        rcases hv with hv | hv
        · exact closing_ne_written (hitems v hv)
        · exact closing_ne_written (hothers v hv)
      have hread : ∀ v ∈ items, ∀ w ∈ others, ∀ r r', Ended r → Ended r' →
          v.written ++ r = w.written ++ r' → v.SameUpToOrder w ∧ r = r' := by
        intro v hv w hw r r' hr hr' h
        exact ih v hv (hothers w hw) hr hr' h
          (kind?_eq_of_written_append (hitems v hv) (hothers w hw) h)
      obtain ⟨hsame, hrest⟩ := bracketed_append_inj (.inl rfl) hread hopen h
      exact ⟨sameUpToOrder_of_forall₂ hsame, hrest⟩
    | _ => cases hkind
  | @map entries nodup hentries ih =>
    cases hb with
    | @map others nodup' hothers =>
      rw [written_map hentries, written_map hothers] at h
      have hopen : ∀ e, e ∈ entries.mergeSort byName ∨ e ∈ others.mergeSort byName →
          ∀ r r', '}' :: r ≠ writtenMember e ++ r' := by
        intro e _ r r' heq
        rw [writtenMember_append, canonicalText_append] at heq
        exact absurd (List.cons.inj heq).1 (by decide)
      have hread : ∀ d ∈ entries.mergeSort byName, ∀ e ∈ others.mergeSort byName, ∀ r r',
          Ended r → Ended r' → writtenMember d ++ r = writtenMember e ++ r' →
            SameMember d e ∧ r = r' := by
        intro d hd e he r r' hr hr' h
        rw [writtenMember_append, writtenMember_append] at h
        obtain ⟨hname, hvalue⟩ := canonicalText_append_inj h
        have hd' := List.mem_mergeSort.1 hd
        have he' := List.mem_mergeSort.1 he
        have hvalue' := (List.cons.inj (List.cons.inj hvalue).2).2
        obtain ⟨hsame, hrest⟩ := ih d hd' (hothers e he') hr hr' hvalue'
          (kind?_eq_of_written_append (hentries d hd') (hothers e he') hvalue')
        exact ⟨⟨String.toList_injective hname, hsame⟩, hrest⟩
      obtain ⟨hsame, hrest⟩ := bracketed_append_inj (.inr rfl) hread hopen h
      exact ⟨sameUpToOrder_of_members nodup' (List.mergeSort_perm _ _) (List.mergeSort_perm _ _)
        hsame, hrest⟩
    | _ => cases hkind

end Value

end SiteTemplates
