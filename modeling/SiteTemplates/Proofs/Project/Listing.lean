import SiteTemplates.Project.Listing
import SiteTemplates.Proofs.Project.Folder
import SiteTemplates.Proofs.Text.Parts

/-!
# Listed projects are trees

What is put at the end of a path leaves the names in every folder apart (`IsTree.put`), and no name
of a path holds a slash.  So what lines list is a tree, whatever they are, and so is every folder
that is found in it (`isTree_listing`).
-/

namespace SiteTemplates.Entry

variable {entries : List (String × Entry)} {above : List Entry} {name : String} {path : List String}
  {e here new root : Entry}

/-! ### One folder -/

theorem mem_putIn {d : String × Entry} (h : d ∈ putIn name e entries) :
    d = (name, e) ∨ d ∈ entries := by
  induction entries with
  | nil => exact .inl (List.mem_singleton.1 h)
  | cons c rest ih =>
    obtain ⟨n, old⟩ := c
    rw [putIn] at h
    split at h
    · rename_i hname
      subst hname
      exact (List.mem_cons.1 h).imp id (List.mem_cons_of_mem _)
    · rcases List.mem_cons.1 h with rfl | h
      · exact .inr List.mem_cons_self
      · exact (ih h).imp id (List.mem_cons_of_mem _)

theorem nodup_putIn (h : (entries.map Prod.fst).Nodup) (name : String) (e : Entry) :
    ((putIn name e entries).map Prod.fst).Nodup := by
  induction entries with
  | nil => exact List.nodup_singleton name
  | cons c rest ih =>
    obtain ⟨n, old⟩ := c
    obtain ⟨hfirst, hrest⟩ := List.nodup_cons.1 h
    rw [putIn]
    split
    · exact h
    · rename_i hname
      refine List.nodup_cons.2 ⟨fun hmem => ?_, ih hrest⟩
      obtain ⟨d, hd, hkey⟩ := List.mem_map.1 hmem
      rcases mem_putIn hd with rfl | hd
      · exact hname hkey.symm
      · exact hfirst (List.mem_map.2 ⟨d, hd, hkey⟩)

theorem isTree_nothing : IsTree nothing :=
  .folder .nil (fun _ he => absurd he List.not_mem_nil) (fun _ he => absurd he List.not_mem_nil)

theorem IsTree.putIn (h : IsTree (.folder entries)) (hname : '/' ∉ name.toList) (he : IsTree e) :
    IsTree (.folder (Entry.putIn name e entries)) := by
  cases h with
  | folder hnames hplain hbelow =>
    refine .folder (nodup_putIn hnames name e) (fun d hd => ?_) (fun d hd => ?_)
    · rcases mem_putIn hd with rfl | hd
      · exact hname
      · exact hplain d hd
    · rcases mem_putIn hd with rfl | hd
      · exact he
      · exact hbelow d hd

theorem IsTree.of_lookup (h : IsTree (.folder entries)) (he : entries.lookup name = some e) :
    IsTree e := by
  obtain ⟨before, after, rfl, -⟩ := List.lookup_eq_some_iff.1 he
  cases h with
  | folder _ _ hbelow => exact hbelow (name, e) (by simp)

/-! ### Paths -/

theorem IsTree.put (h : IsTree here) (hnew : IsTree new)
    (hpath : ∀ name ∈ path, '/' ∉ name.toList) :
    IsTree (here.put path new) := by
  induction path generalizing here with
  | nil =>
    unfold Entry.put
    split
    · exact h
    · exact hnew
  | cons name path ih =>
    obtain ⟨hname, hpath⟩ := List.forall_mem_cons.1 hpath
    have hinside : ∀ entries, IsTree (.folder entries) →
        IsTree (.folder
          (Entry.putIn name (((entries.lookup name).getD nothing).put path new) entries)) := by
      intro entries hentries
      refine hentries.putIn hname (ih ?_ hpath)
      cases he : entries.lookup name with
      | none => exact isTree_nothing
      | some e => exact hentries.of_lookup he
    cases here with
    | file _ => exact hinside [] isTree_nothing
    | folder entries => exact hinside entries h

theorem IsTree.walk (h : IsTree here) (habove : ∀ e ∈ above, IsTree e)
    (hwalk : walk? above here path = some e) : IsTree e := by
  induction path generalizing above here with
  | nil =>
    obtain rfl := Option.some.inj hwalk
    exact h
  | cons name path ih =>
    cases here with
    | file _ => cases hwalk
    | folder entries =>
      unfold walk? at hwalk
      dsimp only at hwalk
      split at hwalk
      · cases above with
        | nil => cases hwalk
        | cons up above =>
          obtain ⟨hup, habove⟩ := List.forall_mem_cons.1 habove
          exact ih hup habove hwalk
      · cases hnext : entries.lookup name with
        | none =>
          rw [hnext] at hwalk
          cases hwalk
        | some next =>
          rw [hnext] at hwalk
          exact ih (h.of_lookup hnext) (List.forall_mem_cons.2 ⟨h, habove⟩) hwalk

theorem IsTree.listing (h : IsTree root) (path : String) :
    IsTree (.folder (root.listing path)) := by
  unfold Entry.listing
  split
  · rename_i hfound
    unfold find? at hfound
    split at hfound
    · cases hfound
    · exact h.walk (fun _ he => absurd he List.not_mem_nil) hfound
  · exact isTree_nothing

/-! ### Lines -/

/-- A line can list a file with nothing in it. -/
theorem putLine?_of_empty (root : Entry) (path : String) {line : String}
    (hline : Text.splitAll '\t' line.toList = [path.toList, []])
    (hfile : path.endsWith "/" = false) :
    root.putLine? line = some (root.put (pathOf path) (.file "".toUTF8)) := by
  have hcontent : ofContent path ⟨#[]⟩ = .file "".toUTF8 := by
    rw [ofContent, hfile]
    rfl
  rw [putLine?, hline, ← hcontent]
  show some (root.put (pathOf (String.ofList path.toList))
    (ofContent (String.ofList path.toList) ⟨#[]⟩)) = _
  rw [String.ofList_toList]

theorem not_mem_slash_of_mem_pathOf {s : String} (h : name ∈ pathOf s) : '/' ∉ name.toList := by
  obtain ⟨hname, -⟩ := List.mem_filter.1 h
  obtain ⟨part, hpart, rfl⟩ := List.mem_map.1 hname
  rw [String.toList_ofList]
  exact Text.not_mem_of_mem_splitAll hpart

theorem IsTree.putLine (h : IsTree root) {line : String} (hline : root.putLine? line = some new) :
    IsTree new := by
  unfold putLine? at hline
  split at hline
  · rename_i written digits _
    obtain ⟨bytes, -, heq⟩ := Option.bind_eq_some_iff.1 hline
    obtain rfl := Option.some.inj heq
    refine h.put ?_ fun name => not_mem_slash_of_mem_pathOf
    unfold ofContent
    split
    · exact isTree_nothing
    · exact .file _
  · cases hline

theorem isTree_ofListing {lines : List String} (h : ofListing? lines = some root) :
    IsTree root := by
  have hfrom : ∀ start, IsTree start → lines.foldlM putLine? start = some root → IsTree root := by
    clear h
    induction lines with
    | nil =>
      intro start hstart heq
      obtain rfl := Option.some.inj heq
      exact hstart
    | cons line lines ih =>
      intro start hstart heq
      rw [List.foldlM_cons] at heq
      obtain ⟨next, hline, hrest⟩ := Option.bind_eq_some_iff.1 heq
      exact ih next (hstart.putLine hline) hrest
  exact hfrom nothing isTree_nothing h

/-- **Every folder of a listed project is a tree**, whatever lines list it. -/
theorem isTree_listing {lines : List String} (h : ofListing? lines = some root) (path : String) :
    IsTree (folder (root.listing path)) :=
  (isTree_ofListing h).listing path

end SiteTemplates.Entry
