import SiteTemplates.Project.Discovery
import SiteTemplates.Proofs.Lists
import SiteTemplates.Proofs.Project.Folder
import SiteTemplates.Proofs.Project.Listing

/-!
# Which templates are found, and in which order

Every template file below a folder gives one template, named by its path without the suffix
(`exists_templatesOf_eq`).  They come in the order of their files, which is not quite that of their
names: it looks at one name of the path after the other, and at the suffix.  So a template comes
before another one with a smaller name where its name goes on with a slash, and where it goes on
with some character up to the slash while the other name ends (`GetsAhead`), and nowhere else
(`loadTemplates_finds_all`).
-/

namespace SiteTemplates

open Text Entry

variable {path : List String} {name : String} {listed : List (List String × ByteArray)}
  {entries : List (String × Entry)}

/-! ### Names -/

/-- The file at a path is a template file, and the path without its suffix is the name. -/
def IsNamed (path : List String) (name : String) : Prop :=
  ∃ above stem suffix, path = above ++ [stem ++ suffix] ∧ HasSuffix (stem ++ suffix) stem suffix ∧
    isTemplateSuffix suffix = true ∧ name = "/".intercalate (above ++ [stem])

theorem ne_empty_of_isTemplateSuffix {suffix : String} (h : isTemplateSuffix suffix = true) :
    suffix ≠ "" := by
  rintro rfl
  exact absurd h (by decide)

theorem templateName?_eq_some_iff : templateName? path = some name ↔ IsNamed path name := by
  unfold templateName? IsNamed
  constructor
  · intro h
    split at h
    · cases h
    · rename_i file above hpath
      generalize hcut : stemAndSuffix file = parts at h
      obtain ⟨stem, suffix⟩ := parts
      dsimp only at h
      split at h
      · rename_i hsuffix
        have hparts := hasSuffix_of_stemAndSuffix (ne_empty_of_isTemplateSuffix hsuffix) hcut
        obtain rfl := hparts.1
        refine ⟨above.reverse, stem, suffix, ?_, hparts, hsuffix, ?_⟩
        · rw [← List.reverse_cons, ← hpath, List.reverse_reverse]
        · rw [← Option.some.inj h, List.reverse_cons]
      · cases h
  · rintro ⟨above, stem, suffix, rfl, hcut, hsuffix, rfl⟩
    rw [List.reverse_append, List.reverse_singleton, List.singleton_append]
    dsimp only
    rw [hcut.stemAndSuffix_eq]
    dsimp only
    rw [if_pos hsuffix, List.reverse_cons, List.reverse_reverse]

/-! ### Files -/

/-- A template is the one in a file: it has the name of the file and its text. -/
def IsFoundIn (file : List String × ByteArray) (t : Template) : Prop :=
  IsNamed file.1 t.name ∧ readText file.2 = .ok t.source.toList

def templateFiles (listed : List (List String × ByteArray)) : List (List String × ByteArray) :=
  listed.filter (fun file => (templateName? file.1).isSome)

theorem mem_templateFiles {file : List String × ByteArray} :
    file ∈ templateFiles listed ↔ file ∈ listed ∧ ∃ name, IsNamed file.1 name := by
  simp only [templateFiles, List.mem_filter, Option.isSome_iff_exists, templateName?_eq_some_iff]

/-- Template files that hold text and have a name give one template each, in their order. -/
theorem exists_templatesOf_eq
    (h : ∀ file ∈ listed, ∀ name, IsNamed file.1 name →
      (∃ s, readText file.2 = .ok s) ∧ allBlank name.toList = false) :
    ∃ templates, templatesOf listed = .ok templates ∧
      List.Forall₂ IsFoundIn (templateFiles listed) templates := by
  induction listed with
  | nil => exact ⟨[], rfl, .nil⟩
  | cons file rest ih =>
    obtain ⟨path, content⟩ := file
    obtain ⟨hfile, hrest⟩ := List.forall_mem_cons.1 h
    obtain ⟨templates, heq, hall⟩ := ih hrest
    cases hname : templateName? path with
    | none =>
      refine ⟨templates, ?_, ?_⟩
      · rw [templatesOf, hname]
        exact heq
      · rw [templateFiles, List.filter_cons_of_neg (by simp [hname])]
        exact hall
    | some name =>
      have hnamed := templateName?_eq_some_iff.1 hname
      obtain ⟨⟨s, hs⟩, hblank⟩ := hfile name hnamed
      refine ⟨⟨name, String.ofList s, hblank⟩ :: templates, ?_, ?_⟩
      · rw [templatesOf, hname]
        dsimp only
        rw [hs]
        simp only [Template.ofParts, hblank, dif_pos, heq]
        rfl
      · rw [templateFiles, List.filter_cons_of_pos (by simp [hname])]
        exact .cons ⟨hnamed, hs.trans (congrArg _ String.toList_ofList.symm)⟩ hall

/-! ### Order -/

/-- A name that comes behind another one and yet gets before it: it goes on with a character up to
the slash where the other one ends, or with the slash where the other one goes on with a character
below the slash. -/
def GetsAhead (a b : List Char) : Prop :=
  ∃ start x rest, a = start ++ x :: rest ∧
    (b = start ∧ x ≤ '/' ∨ x = '/' ∧ ∃ y rest', b = start ++ y :: rest' ∧ y < '/')

theorem GetsAhead.cons {a b : List Char} (h : GetsAhead a b) (c : Char) :
    GetsAhead (c :: a) (c :: b) := by
  obtain ⟨start, x, rest, rfl, ⟨rfl, hx⟩ | ⟨rfl, y, rest', rfl, hy⟩⟩ := h
  · exact ⟨c :: b, x, rest, rfl, .inl ⟨rfl, hx⟩⟩
  · exact ⟨c :: start, '/', rest, rfl, .inr ⟨rfl, y, rest', rfl, hy⟩⟩

theorem GetsAhead.lex {a b : List Char} (h : GetsAhead a b) : List.Lex (· < ·) b a := by
  obtain ⟨start, x, rest, rfl, ⟨rfl, -⟩ | ⟨rfl, y, rest', rfl, hy⟩⟩ := h
  · have hlex := List.Lex.append_left (· < ·) (List.Lex.nil (a := x) (l := rest)) b
    rwa [List.append_nil] at hlex
  · exact List.Lex.append_left (· < ·) (.rel hy) start

/-- Where the names differ first, the written paths do as well, unless the smaller name ends there:
then its suffix follows, which begins with a point. -/
theorem getsAhead_of_lex {a b s t : List Char} (hlt : List.Lex (· < ·) b a)
    (hpath : List.Lex SlashFirst (a ++ s) (b ++ '.' :: t)) : GetsAhead a b := by
  induction hlt with
  | @nil x rest =>
    have hx : x ≤ '/' := by
      cases hpath with
      | cons _ => decide
      | rel h =>
        rcases h.2 with rfl | hx
        · exact le_refl _
        · exact le_of_lt (hx.trans (by decide))
    exact ⟨[], x, rest, rfl, .inl ⟨rfl, hx⟩⟩
  | @rel y rest' x rest hyx =>
    cases hpath with
    | cons _ => exact absurd hyx (lt_irrefl _)
    | rel h =>
      obtain rfl := h.2.resolve_right (lt_asymm hyx)
      exact ⟨[], '/', rest, rfl, .inr ⟨rfl, y, rest', rfl, hyx⟩⟩
  | @cons c b a hlt ih =>
    cases hpath with
    | cons hpath => exact (ih hpath).cons c
    | rel h => exact absurd (h.2.resolve_left h.1) (lt_irrefl _)

theorem exists_rooted_eq (h : IsNamed path name) :
    ∃ ending, rooted path = '/' :: (name.toList ++ '.' :: ending) := by
  obtain ⟨above, stem, suffix, rfl, ⟨-, -, ending, hsuffix, -⟩, -, rfl⟩ := h
  refine ⟨ending, ?_⟩
  rw [← List.cons_append, ← rooted_eq (by simp), rooted_append_singleton, rooted_append_singleton,
    String.toList_append, hsuffix]
  simp

/-- Of two template files, the second has the smaller name exactly if the first gets ahead. -/
theorem lt_iff_getsAhead {p q : List String} {a b : String} (hle : pathLE p q = true) (hne : p ≠ q)
    (hq : ∀ name ∈ q, '/' ∉ name.toList) (ha : IsNamed p a) (hb : IsNamed q b) :
    b < a ↔ GetsAhead a.toList b.toList := by
  refine ⟨fun hlt => ?_, fun h => String.lt_iff_toList_lt.2 h.lex⟩
  obtain ⟨s, hp⟩ := exists_rooted_eq ha
  obtain ⟨t, hq'⟩ := exists_rooted_eq hb
  have hlex := lex_rooted hle hne hq
  rw [hp, hq'] at hlex
  cases hlex with
  | cons hlex => exact getsAhead_of_lex (String.lt_iff_toList_lt.1 hlt) hlex
  | rel h => exact absurd rfl h.1

/-! ### Discovery -/

/-- **All templates are found, and in which order.**  In a tree whose template files hold text and
do not have blank names, there is exactly one template for every template file, with the path
without the suffix as its name, and they come in the order of the paths, name by name.  Of two
templates in that order, the second one has the smaller name exactly if the first one gets ahead.
So the names ascend if all their characters are at or above the slash and no template has the name
of a folder beside it. -/
theorem loadTemplates_finds_all (htree : IsTree (.folder entries))
    (hreads : ∀ path content name, Holds (.folder entries) path content → IsNamed path name →
      String.fromUTF8? content ≠ none ∧ allBlank name.toList = false) :
    ∃ templates files, loadTemplates entries = .ok templates ∧
      List.Forall₂ IsFoundIn files templates ∧ files.Pairwise (fun f g => f.1 < g.1) ∧
      (∀ path content, (path, content) ∈ files ↔
        Holds (.folder entries) path content ∧ ∃ name, IsNamed path name) ∧
      templates.Pairwise (fun t u => u.name < t.name ↔ GetsAhead t.name.toList u.name.toList) ∧
      ((∀ t ∈ templates, ∀ c ∈ t.name.toList, '/' ≤ c) →
        (∀ t ∈ templates, ∀ u ∈ templates, ¬ (u.name.toList ++ ['/']) <+: t.name.toList) →
        templates.Pairwise (fun t u => t.name ≤ u.name)) := by
  have hfiles : ∀ file ∈ files entries, ∀ name, IsNamed file.1 name →
      (∃ s, readText file.2 = .ok s) ∧ allBlank name.toList = false := by
    intro file hfile name hname
    obtain ⟨htext, hblank⟩ := hreads file.1 file.2 name (mem_files.1 hfile) hname
    obtain ⟨s, hs⟩ := Option.ne_none_iff_exists'.1 htext
    exact ⟨⟨unifyLines s.toList, by rw [readText, hs]⟩, hblank⟩
  obtain ⟨templates, heq, hall⟩ := exists_templatesOf_eq hfiles
  have hsorted : (templateFiles (files entries)).Pairwise (fun a b =>
      pathLE a.1 b.1 = true ∧ a.1 ≠ b.1 ∧ ∀ name ∈ b.1, '/' ∉ name.toList) := by
    refine ((pairwise_files htree).imp_of_mem fun _ hb h => ?_).filter _
    exact ⟨h.1, h.2, (mem_files.1 hb).not_mem_slash htree⟩
  have horder : templates.Pairwise (fun t u =>
      u.name < t.name ↔ GetsAhead t.name.toList u.name.toList) :=
    pairwise_of_forall₂ hall hsorted fun hfile ht hu =>
      lt_iff_getsAhead hfile.1 hfile.2.1 hfile.2.2 ht.1 hu.1
  refine ⟨templates, _, heq, hall, hsorted.imp fun h => lt_of_pathLE h.1 h.2.1,
    fun path content => ?_, horder, fun hplain hbeside => ?_⟩
  · rw [mem_templateFiles, mem_files]
  · refine horder.imp_of_mem fun {t u} ht hu h => ?_
    rw [← not_lt, h]
    rintro ⟨start, x, rest, hstart, ⟨hu', hx⟩ | ⟨-, y, rest', hu', hy⟩⟩
    · have hslash : x = '/' := le_antisymm hx (hplain t ht x (hstart ▸ by simp))
      exact hbeside t ht u hu ⟨rest, by rw [hstart, hu', hslash]; simp⟩
    · exact absurd hy (not_lt.2 (hplain u hu y (hu' ▸ by simp)))

/-! ### A template beside a folder of its name -/

def besideFolder : List (String × Entry) :=
  [("a", .folder [("b.html", .file "".toUTF8)]), ("a.html", .file "".toUTF8)]

theorem files_besideFolder :
    files besideFolder = [(["a", "b.html"], "".toUTF8), (["a.html"], "".toUTF8)] :=
  List.mergeSort_of_pairwise (by decide)

theorem ofListing?_besideFolder : ofListing? ["templates/a/b.html\t", "templates/a.html\t"] =
    some (.folder [("templates", .folder besideFolder)]) := by
  have hinner : pathOf "templates/a/b.html" = ["templates", "a", "b.html"] := by decide
  have houter : pathOf "templates/a.html" = ["templates", "a.html"] := by decide
  rw [ofListing?, List.foldlM_cons,
    putLine?_of_empty nothing "templates/a/b.html" (by decide) (by decide +kernel), hinner]
  show List.foldlM putLine? _ ["templates/a.html\t"] = _
  rw [List.foldlM_cons, putLine?_of_empty _ "templates/a.html" (by decide) (by decide +kernel),
    houter]
  rfl

theorem isTree_besideFolder : IsTree (.folder besideFolder) := by
  have hpath : pathOf "templates" = ["templates"] := by decide
  have hinside : "templates".startsWith "/" = false := by decide +kernel
  have hlisting : (Entry.folder [("templates", .folder besideFolder)]).listing "templates" =
      besideFolder := by
    rw [Entry.listing, find?, hinside, hpath]
    rfl
  rw [← hlisting]
  exact isTree_listing ofListing?_besideFolder "templates"

theorem templateName?_besideFolder :
    templateName? ["a", "b.html"] = some "a/b" ∧ templateName? ["a.html"] = some "a" := by
  decide

theorem loadTemplates_besideFolder : loadTemplates besideFolder =
    .ok [⟨"a/b", "", by decide⟩, ⟨"a", "", by decide⟩] := by
  obtain ⟨hinner, houter⟩ := templateName?_besideFolder
  rw [loadTemplates, files_besideFolder]
  simp only [templatesOf, hinner, houter, readText_toUTF8]
  rfl

theorem loadTemplates_finds_all_besideFolder : IsTree (.folder besideFolder) ∧
    (∀ path content name, Holds (.folder besideFolder) path content → IsNamed path name →
      String.fromUTF8? content ≠ none ∧ allBlank name.toList = false) ∧
    ∃ templates files, loadTemplates besideFolder = .ok templates ∧
      List.Forall₂ IsFoundIn files templates ∧ files.Pairwise (fun f g => f.1 < g.1) ∧
      templates.map Template.name = ["a/b", "a"] ∧
      templates.Pairwise (fun t u => u.name < t.name ↔ GetsAhead t.name.toList u.name.toList) := by
  have hreads : ∀ path content name, Holds (.folder besideFolder) path content →
      IsNamed path name → String.fromUTF8? content ≠ none ∧ allBlank name.toList = false := by
    intro path content name hfile hname
    have hmem := mem_files.2 hfile
    have hfound := templateName?_eq_some_iff.2 hname
    obtain ⟨hinner, houter⟩ := templateName?_besideFolder
    rw [files_besideFolder, List.mem_cons, List.mem_singleton] at hmem
    rcases hmem with hmem | hmem <;> obtain ⟨rfl, rfl⟩ := Prod.mk.inj hmem
    · obtain rfl := Option.some.inj (hinner.symm.trans hfound)
      exact ⟨by decide, by decide⟩
    · obtain rfl := Option.some.inj (houter.symm.trans hfound)
      exact ⟨by decide, by decide⟩
  obtain ⟨templates, files, heq, hfound, hsorted, -, horder, -⟩ :=
    loadTemplates_finds_all isTree_besideFolder hreads
  obtain rfl := Except.ok.inj (loadTemplates_besideFolder.symm.trans heq)
  exact ⟨isTree_besideFolder, hreads, _, files, heq, hfound, hsorted, rfl, horder⟩

/-- **The templates do not come in the order of their names.**  What is in a folder comes before a
template that has the name of the folder. -/
theorem loadTemplates_descends : IsTree (.folder besideFolder) ∧
    ∃ templates, loadTemplates besideFolder = .ok templates ∧
      templates.map Template.name = ["a/b", "a"] ∧
      ¬ templates.Pairwise (fun t u => t.name ≤ u.name) :=
  ⟨isTree_besideFolder, _, loadTemplates_besideFolder, rfl, by decide⟩

end SiteTemplates
