import Mathlib.Data.List.Lex
import Mathlib.Data.List.Nodup
import Mathlib.Data.List.TakeWhile
import Mathlib.Data.String.Basic
import SiteTemplates.Project.Folder
import SiteTemplates.Proofs.Lists

/-!
# The files of a folder

A file lies below a folder at the path of names that leads to it (`Holds`).  Where the names in a
folder differ, as they do in every folder on a disk (`IsTree`), the listing has each file once
(`mem_files`), and it ascends in the order of paths (`pairwise_files`).

That order is not the one of paths that are written with slashes: there, it counts the slash before
every other character (`lex_rooted`).

The suffix of a file name begins with its last point, which stands neither first nor last
(`HasSuffix`).
-/

namespace SiteTemplates

namespace Entry

variable {base path : List String} {content : ByteArray} {entries : List (String × Entry)}

/-! ### Trees -/

mutual

/-- What holds of files, and of a folder as soon as it holds of all that is in it, holds of every
entry. -/
theorem induction_on_entries {motive : Entry → Prop} (hfile : ∀ content, motive (file content))
    (hfolder : ∀ entries, (∀ e ∈ entries, motive e.2) → motive (folder entries)) (e : Entry) :
    motive e := by
  cases e with
  | file content => exact hfile content
  | folder entries => exact hfolder entries (forall_of_entries hfile hfolder entries)

theorem forall_of_entries {motive : Entry → Prop} (hfile : ∀ content, motive (file content))
    (hfolder : ∀ entries, (∀ e ∈ entries, motive e.2) → motive (folder entries))
    (entries : List (String × Entry)) : ∀ e ∈ entries, motive e.2 := by
  cases entries with
  | nil => exact fun e he => absurd he List.not_mem_nil
  | cons e rest =>
    obtain ⟨name, e⟩ := e
    have he := induction_on_entries hfile hfolder e
    have hrest := forall_of_entries hfile hfolder rest
    exact List.forall_mem_cons.2 ⟨he, hrest⟩

end

/-- At a path below an entry there is a file with a content. -/
inductive Holds : Entry → List String → ByteArray → Prop
  | file (content : ByteArray) : Holds (file content) [] content
  | folder {entries : List (String × Entry)} {name : String} {e : Entry}
      (hmem : (name, e) ∈ entries) {path : List String} {content : ByteArray}
      (h : Holds e path content) :
      Holds (folder entries) (name :: path) content

/-- In every folder the names differ, and none of them holds a slash. -/
inductive IsTree : Entry → Prop
  | file (content : ByteArray) : IsTree (file content)
  | folder {entries : List (String × Entry)} (hnames : (entries.map Prod.fst).Nodup)
      (hplain : ∀ e ∈ entries, '/' ∉ e.1.toList) (h : ∀ e ∈ entries, IsTree e.2) :
      IsTree (folder entries)

theorem Holds.not_mem_slash {e : Entry} (h : Holds e path content) (htree : IsTree e) :
    ∀ name ∈ path, '/' ∉ name.toList := by
  induction h with
  | file content => exact fun name hname => absurd hname List.not_mem_nil
  | folder hmem h ih =>
    cases htree with
    | folder hnames hplain hbelow =>
      exact List.forall_mem_cons.2 ⟨hplain _ hmem, ih (hbelow _ hmem)⟩

/-! ### Listing -/

theorem filesIn_eq (base : List String) (entries : List (String × Entry)) :
    filesIn base entries = entries.flatMap (fun e => filesAt (base ++ [e.1]) e.2) := by
  induction entries with
  | nil => rfl
  | cons e rest ih =>
    obtain ⟨name, e⟩ := e
    rw [filesIn, ih, List.flatMap_cons]

theorem mem_filesAt (e : Entry) : ∀ base path content,
    (path, content) ∈ filesAt base e ↔ ∃ below, path = base ++ below ∧ Holds e below content := by
  induction e using induction_on_entries with
  | hfile content =>
    intro base path content'
    rw [filesAt, List.mem_singleton, Prod.mk.injEq]
    constructor
    · rintro ⟨rfl, rfl⟩
      exact ⟨[], (List.append_nil _).symm, .file _⟩
    · rintro ⟨below, rfl, h⟩
      cases h
      exact ⟨List.append_nil base, rfl⟩
  | hfolder entries ih =>
    intro base path content
    rw [filesAt, filesIn_eq, List.mem_flatMap]
    constructor
    · rintro ⟨⟨name, e⟩, hmem, hpath⟩
      obtain ⟨below, rfl, h⟩ := (ih _ hmem _ _ _).1 hpath
      exact ⟨name :: below, List.append_assoc _ _ _, .folder hmem h⟩
    · rintro ⟨below, rfl, h⟩
      cases h with
      | @folder _ name e hmem below _ h =>
        exact ⟨(name, e), hmem, (ih _ hmem _ _ _).2 ⟨below, by simp, h⟩⟩

theorem nodup_filesAt {e : Entry} (h : IsTree e) (base : List String) :
    ((filesAt base e).map Prod.fst).Nodup := by
  induction h generalizing base with
  | file content => exact List.nodup_singleton base
  | @folder entries hnames hplain h ih =>
    rw [filesAt, filesIn_eq, List.map_flatMap, List.nodup_flatMap]
    refine ⟨fun e he => ih e he _, ?_⟩
    refine (List.pairwise_map.1 hnames).imp fun {d e} hne => ?_
    -- The paths below two entries differ in the name of the entry.
    intro path hd he
    obtain ⟨⟨_, content⟩, hleft, rfl⟩ := List.mem_map.1 hd
    obtain ⟨⟨_, content'⟩, hright, rfl⟩ := List.mem_map.1 he
    obtain ⟨below, heq, -⟩ := (mem_filesAt d.2 _ _ _).1 hleft
    obtain ⟨below', heq', -⟩ := (mem_filesAt e.2 _ _ _).1 hright
    have hsame : base ++ [d.1] ++ below = base ++ [e.1] ++ below' := by
      rw [← heq, ← heq']
    rw [List.append_assoc, List.append_assoc, List.append_cancel_left_eq] at hsame
    exact hne (List.cons.inj hsame).1

/-- The listing has the files of the folder and no others. -/
theorem mem_files : (path, content) ∈ files entries ↔ Holds (folder entries) path content := by
  have hfolder := mem_filesAt (folder entries) [] path content
  rw [filesAt] at hfolder
  rw [files, List.mem_mergeSort, hfolder]
  simp

/-! ### Order -/

theorem pathLE_cons {a b : String} {p q : List String} :
    pathLE (a :: p) (b :: q) = true ↔ a < b ∨ a = b ∧ pathLE p q = true := by
  rw [pathLE, Bool.or_eq_true, Bool.and_eq_true, beq_iff_eq, decide_eq_true_iff]

theorem pathLE_total (p q : List String) : pathLE p q = true ∨ pathLE q p = true := by
  induction p generalizing q with
  | nil => exact .inl rfl
  | cons a p ih =>
    cases q with
    | nil => exact .inr rfl
    | cons b q =>
      rw [pathLE_cons, pathLE_cons]
      rcases lt_trichotomy a b with hab | rfl | hab
      · exact .inl (.inl hab)
      · exact (ih q).imp (fun h => .inr ⟨rfl, h⟩) (fun h => .inr ⟨rfl, h⟩)
      · exact .inr (.inl hab)

theorem pathLE_trans {p q r : List String} (hpq : pathLE p q = true) (hqr : pathLE q r = true) :
    pathLE p r = true := by
  induction p generalizing q r with
  | nil => rfl
  | cons a p ih =>
    cases q with
    | nil => cases hpq
    | cons b q =>
      cases r with
      | nil => cases hqr
      | cons c r =>
        rw [pathLE_cons] at hpq hqr ⊢
        rcases hpq with hab | ⟨rfl, hpq⟩
        · exact .inl (hqr.elim hab.trans fun h => h.1 ▸ hab)
        · exact hqr.imp id fun h => ⟨h.1, ih hpq h.2⟩

theorem lt_of_pathLE {p q : List String} (hle : pathLE p q = true) (hne : p ≠ q) : p < q := by
  induction p generalizing q with
  | nil =>
    cases q with
    | nil => exact absurd rfl hne
    | cons b q => exact List.nil_lt_cons b q
  | cons a p ih =>
    cases q with
    | nil => cases hle
    | cons b q =>
      rw [List.cons_lt_cons_iff]
      rcases pathLE_cons.1 hle with hab | ⟨rfl, hrest⟩
      · exact .inl hab
      · exact .inr ⟨rfl, ih hrest fun h => hne (h ▸ rfl)⟩

/-- The listing ascends in the order of paths, and no path comes twice. -/
theorem pairwise_files (h : IsTree (folder entries)) :
    (files entries).Pairwise (fun a b => pathLE a.1 b.1 = true ∧ a.1 ≠ b.1) := by
  have hnodup := nodup_filesAt h []
  rw [filesAt] at hnodup
  refine pairwise_mergeSort_of_nodup (fun _ _ _ => pathLE_trans) (fun a b => ?_) hnodup
  rw [Bool.or_eq_true]
  exact pathLE_total a.1 b.1

def SlashFirst (x y : Char) : Prop := y ≠ '/' ∧ (x = '/' ∨ x < y)

def rooted (path : List String) : List Char := path.flatMap (fun name => '/' :: name.toList)

theorem rooted_append_singleton (above : List String) (name : String) :
    rooted (above ++ [name]) = rooted above ++ '/' :: name.toList := by
  simp [rooted]

/-- Without the first slash it is the path with slashes between its names. -/
theorem rooted_eq (h : path ≠ []) : rooted path = '/' :: ("/".intercalate path).toList := by
  induction path with
  | nil => exact absurd rfl h
  | cons name path ih =>
    rw [String.toList_intercalate] at ih ⊢
    cases path with
    | nil => simp [rooted]
    | cons next path =>
      have hcons : rooted (name :: next :: path) = '/' :: name.toList ++ rooted (next :: path) :=
        rfl
      rw [hcons, ih (List.cons_ne_nil next path)]
      simp [List.intercalate_cons_cons]

theorem lex_append_of_lex {a b : List Char} (hlt : List.Lex (· < ·) a b) (hb : '/' ∉ b)
    (s : List String) (t : List Char) : List.Lex SlashFirst (a ++ rooted s) (b ++ t) := by
  induction hlt with
  | nil =>
    rw [List.mem_cons, not_or] at hb
    cases s with
    | nil => exact .nil
    | cons name s => exact .rel ⟨Ne.symm hb.1, .inl rfl⟩
  | rel hxy =>
    rw [List.mem_cons, not_or] at hb
    exact .rel ⟨Ne.symm hb.1, .inr hxy⟩
  | cons _ ih =>
    rw [List.mem_cons, not_or] at hb
    exact .cons (ih hb.2)

/-- The order of paths is that of written paths, with the slash before all other characters. -/
theorem lex_rooted {p q : List String} (hle : pathLE p q = true) (hne : p ≠ q)
    (hq : ∀ name ∈ q, '/' ∉ name.toList) : List.Lex SlashFirst (rooted p) (rooted q) := by
  induction p generalizing q with
  | nil =>
    obtain ⟨b, q, rfl⟩ := List.exists_cons_of_ne_nil (Ne.symm hne)
    exact .nil
  | cons a p ih =>
    cases q with
    | nil => cases hle
    | cons b q =>
      obtain ⟨hb, hrest⟩ := List.forall_mem_cons.1 hq
      rcases pathLE_cons.1 hle with hab | ⟨rfl, htail⟩
      · exact .cons (lex_append_of_lex (String.lt_iff_toList_lt.1 hab) hb p (rooted q))
      · have hlex := ih htail (fun h => hne (congrArg (List.cons a) h)) hrest
        exact List.Lex.append_left SlashFirst hlex ('/' :: a.toList)

end Entry

/-! ### Texts -/

/-- The bytes of a text are read as the text, with its ends of lines unified. -/
theorem readText_toUTF8 (s : String) : readText s.toUTF8 = .ok (unifyLines s.toList) := by
  have hread : String.fromUTF8? s.toUTF8 = some s := by
    unfold String.fromUTF8?
    split
    · rfl
    · rename_i h
      exact absurd s.isValidUTF8 h
  rw [readText, hread]

/-! ### Suffixes -/

/-- A file name is cut at its last point, which stands neither first nor last. -/
def HasSuffix (name stem suffix : String) : Prop :=
  name = stem ++ suffix ∧ stem ≠ "" ∧
    ∃ ending : List Char, suffix.toList = '.' :: ending ∧ ending ≠ [] ∧ '.' ∉ ending

theorem hasSuffix_of_stemAndSuffix {name stem suffix : String} (h : suffix ≠ "")
    (hcut : stemAndSuffix name = (stem, suffix)) : HasSuffix name stem suffix := by
  unfold stemAndSuffix at hcut
  dsimp only at hcut
  have hsplit := List.takeWhile_append_dropWhile (p := (· != '.')) (l := name.toList.reverse)
  have hmem : '.' ∉ name.toList.reverse.takeWhile (· != '.') := fun hc => by
    simpa using List.mem_takeWhile_imp hc
  generalize name.toList.reverse.takeWhile (· != '.') = ending at hcut hsplit hmem
  generalize name.toList.reverse.dropWhile (· != '.') = front at hcut hsplit
  split at hcut
  · rename_i front
    split at hcut
    · exact absurd (Prod.mk.inj hcut).2.symm h
    · rename_i hparts
      simp only [Bool.or_eq_true, List.isEmpty_iff, not_or] at hparts
      obtain ⟨rfl, rfl⟩ := Prod.mk.inj hcut
      refine ⟨?_, ?_, ending.reverse, String.toList_ofList, by simpa using hparts.2,
        by simpa using hmem⟩
      · rw [← String.toList_inj, String.toList_append, String.toList_ofList,
          String.toList_ofList, ← List.reverse_reverse name.toList, ← hsplit]
        simp
      · intro hnone
        have hfront := congrArg String.toList hnone
        exact hparts.1 (by simpa using hfront)
  · exact absurd (Prod.mk.inj hcut).2.symm h

theorem HasSuffix.stemAndSuffix_eq {name stem suffix : String} (h : HasSuffix name stem suffix) :
    stemAndSuffix name = (stem, suffix) := by
  obtain ⟨rfl, hstem, ending, hsuffix, hne, hending⟩ := h
  have hback : (stem ++ suffix).toList.reverse = ending.reverse ++ '.' :: stem.toList.reverse := by
    simp [hsuffix]
  have hpoint : ∀ c ∈ ending.reverse, (c != '.') = true := by
    intro c hc
    rw [bne_iff_ne]
    rintro rfl
    exact hending (List.mem_reverse.1 hc)
  unfold stemAndSuffix
  dsimp only
  rw [hback, List.takeWhile_append_of_pos hpoint, List.dropWhile_append_of_pos hpoint,
    List.takeWhile_cons_of_neg (by simp), List.dropWhile_cons_of_neg (by simp)]
  simp [hstem, hne, ← hsuffix]

end SiteTemplates
