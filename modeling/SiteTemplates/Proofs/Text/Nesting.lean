import SiteTemplates.Proofs.Text.Emphasis

/-!
# Which tags nest

Tags nest if every closing tag closes the last one that is open, and none is left open (`Nested`).

A pass of emphasis does not look at the tags of the passes before it, so a stretch may begin inside
strong text and end outside, as in `***a***`.  Yet each kind of tag nests by itself: one pass makes
all tags for strong text, side by side, and the two passes for stressed text may cross each other,
but as their tags have one name, what crosses can be read as nested.

So all tags nest if no stretch of stressed text holds one tag of a strong pair without the other
(`Crosses`).  To see this, let a pair for stressed text be put around such a stretch.  The tag that
opens it goes below whatever the stretch leaves open, and as only tags for stressed text are left
open, it can be taken to be the last of them, which the other tag closes (`openAfter?_insert`).
Conversely a stretch that crosses a strong pair leaves tags that do not nest, if the text that it
stands in has no tags for stressed text yet (`Markup.Emphasized.nested_of_mem_found`).  With both
passes at work two crossings can make up for each other; then the tags nest exactly if those for
stressed text nest within each strong pair.
-/

namespace SiteTemplates.Text

variable {n : List Char} {names names' below : List (List Char)} {ts : List Tag}

/-! ### Reading tags -/

/-- The names that are open after tags, the last one first, when `names` are open before.  Only the
last one can be closed. -/
def openAfter? : List (List Char) → List Tag → Option (List (List Char))
  | names, [] => some names
  | names, .opening n :: ts => openAfter? (n :: names) ts
  | top :: below, .closing n :: ts => if top = n then openAfter? below ts else none
  | [], .closing _ :: _ => none

/-- Every closing tag closes the last tag that is open, and none is left open. -/
def Nested (ts : List Tag) : Prop := openAfter? [] ts = some []

instance (ts : List Tag) : Decidable (Nested ts) := inferInstanceAs (Decidable (_ = _))

theorem openAfter?_opening (names : List (List Char)) (n : List Char) (ts : List Tag) :
    openAfter? names (.opening n :: ts) = openAfter? (n :: names) ts := by
  rw [openAfter?]

theorem openAfter?_closing (n : List Char) (below : List (List Char)) (ts : List Tag) :
    openAfter? (n :: below) (.closing n :: ts) = openAfter? below ts := by
  rw [openAfter?, if_pos rfl]

theorem exists_of_openAfter?_closing (h : openAfter? names (.closing n :: ts) = some names') :
    ∃ below, names = n :: below ∧ openAfter? below ts = some names' := by
  cases names with
  | nil => cases h
  | cons top below =>
    rw [openAfter?] at h
    split at h
    · rename_i htop
      exact ⟨below, htop ▸ rfl, h⟩
    · cases h

theorem openAfter?_append (names : List (List Char)) (ts us : List Tag) :
    openAfter? names (ts ++ us) = (openAfter? names ts).bind (openAfter? · us) := by
  induction ts generalizing names with
  | nil => rfl
  | cons t ts ih =>
    cases t with
    | opening n =>
      rw [List.cons_append, openAfter?_opening, openAfter?_opening, ih]
    | closing n =>
      cases names with
      | nil => rfl
      | cons top names =>
        rw [List.cons_append, openAfter?, openAfter?, ih]
        split <;> rfl

/-- A tag before both of two lists of tags does not part them. -/
theorem openAfter?_cons_of_imp {t : Tag} {us : List Tag}
    (h : ∀ names, openAfter? names ts = some names' → openAfter? names us = some names')
    (ht : openAfter? names (t :: ts) = some names') : openAfter? names (t :: us) = some names' := by
  cases t with
  | opening n => exact h _ ht
  | closing n =>
    obtain ⟨below, rfl, hrest⟩ := exists_of_openAfter?_closing ht
    rw [openAfter?_closing]
    exact h below hrest

/-- After tags of one name, one more of them is open if one more was open before. -/
theorem openAfter?_cons_same (hts : ∀ t ∈ ts, t.name = n) (h : openAfter? names ts = some names') :
    openAfter? (n :: names) ts = some (n :: names') := by
  induction ts generalizing names with
  | nil =>
    cases h
    rfl
  | cons t ts ih =>
    obtain ⟨rfl, hrest⟩ := List.forall_mem_cons.1 hts
    cases t with
    | opening k => exact ih hrest h
    | closing k =>
      obtain ⟨below, rfl, hafter⟩ := exists_of_openAfter?_closing h
      rw [Tag.name, openAfter?_closing]
      exact ih hrest hafter

/-- What was open before does not matter. -/
theorem openAfter?_append_of_eq (h : openAfter? names ts = some names')
    (below : List (List Char)) : openAfter? (names ++ below) ts = some (names' ++ below) := by
  induction ts generalizing names with
  | nil =>
    cases h
    rfl
  | cons t ts ih =>
    cases t with
    | opening n =>
      rw [openAfter?_opening] at h ⊢
      exact ih h
    | closing n =>
      obtain ⟨names, rfl, hrest⟩ := exists_of_openAfter?_closing h
      rw [List.cons_append, openAfter?_closing]
      exact ih hrest

theorem Nested.openAfter?_eq (h : Nested ts) (names : List (List Char)) :
    openAfter? names ts = some names :=
  openAfter?_append_of_eq h names

/-- A name that no tag has stays open with all that was open before it. -/
theorem exists_of_openAfter?_append (hn : ∀ t ∈ ts, t.name ≠ n)
    (h : openAfter? (names ++ n :: below) ts = some names') :
    ∃ top, openAfter? names ts = some top ∧ names' = top ++ n :: below := by
  induction ts generalizing names with
  | nil =>
    cases h
    exact ⟨names, rfl, rfl⟩
  | cons t ts ih =>
    obtain ⟨ht, hts⟩ := List.forall_mem_cons.1 hn
    cases t with
    | opening k => exact ih hts (show openAfter? ((k :: names) ++ n :: below) ts = _ from h)
    | closing k =>
      obtain ⟨rest, hnames, hrest⟩ := exists_of_openAfter?_closing h
      cases names with
      | nil => exact absurd (List.cons.inj hnames).1.symm ht
      | cons top names =>
        obtain ⟨rfl, rfl⟩ := List.cons.inj hnames
        rw [openAfter?_closing]
        exact ih hts hrest

/-- What is open was open before or has been opened. -/
theorem mem_of_openAfter? (h : openAfter? names ts = some names') {k : List Char}
    (hk : k ∈ names') : k ∈ names ∨ ∃ t ∈ ts, t.name = k := by
  induction ts generalizing names with
  | nil =>
    cases h
    exact .inl hk
  | cons t ts ih =>
    have hlater : (∃ u ∈ ts, u.name = k) → ∃ u ∈ t :: ts, u.name = k :=
      fun ⟨u, hu, hname⟩ => ⟨u, List.mem_cons_of_mem _ hu, hname⟩
    cases t with
    | opening m =>
      rcases ih h with hmem | hopened
      · rcases List.mem_cons.1 hmem with rfl | hmem
        · exact .inr ⟨_, List.mem_cons_self, rfl⟩
        · exact .inl hmem
      · exact .inr (hlater hopened)
    | closing m =>
      obtain ⟨below, rfl, hrest⟩ := exists_of_openAfter?_closing h
      exact (ih hrest).imp (List.mem_cons_of_mem m) hlater

/-- Where tags of other names come before the closing of the tag that was opened last, they nest. -/
theorem nested_of_closed {us : List Tag} (hts : ∀ t ∈ ts, t.name ≠ n)
    (h : openAfter? (n :: below) (ts ++ .closing n :: us) = some names') :
    Nested ts ∧ openAfter? below us = some names' := by
  rw [openAfter?_append] at h
  obtain ⟨names, hnames, h⟩ := Option.bind_eq_some_iff.1 h
  obtain ⟨top, htop, rfl⟩ := exists_of_openAfter?_append hts
    (show openAfter? ([] ++ n :: below) ts = some names from hnames)
  cases top with
  | nil =>
    rw [List.nil_append, openAfter?_closing] at h
    exact ⟨htop, h⟩
  | cons k top =>
    -- otherwise the closing tag would close a tag from within
    obtain ⟨_, hclosed, -⟩ := exists_of_openAfter?_closing h
    rcases mem_of_openAfter? htop List.mem_cons_self with hnil | ⟨t, ht, hname⟩
    · cases hnil
    · exact absurd (hname.trans (List.cons.inj hclosed).1) (hts t ht)

/-- What stands between a tag and the one that closes it is nested. -/
theorem Nested.between {before inner after : List Tag}
    (h : Nested (before ++ .opening n :: (inner ++ .closing n :: after)))
    (hinner : ∀ t ∈ inner, t.name ≠ n) : Nested inner := by
  rw [Nested, openAfter?_append] at h
  obtain ⟨below, -, h⟩ := Option.bind_eq_some_iff.1 h
  rw [openAfter?_opening] at h
  exact (nested_of_closed hinner h).1

/-- Tags nest if those of one name come in pairs, none of them in another, the others nest without
them, and so do those within each pair. -/
theorem openAfter?_of_pairs {k : Nat}
    (hpairs : ts.filter (·.name = n) = (List.replicate k [.opening n, .closing n]).flatten)
    (hinner : ∀ before inner after, ts = before ++ .opening n :: (inner ++ .closing n :: after) →
      (∀ t ∈ inner, t.name ≠ n) → Nested inner)
    (h : openAfter? names (ts.filter (·.name ≠ n)) = some names') :
    openAfter? names ts = some names' := by
  induction k generalizing ts names with
  | zero =>
    have hother : ∀ t ∈ ts, t.name ≠ n := by simpa using hpairs
    have hfilter : ts.filter (·.name ≠ n) = ts :=
      List.filter_eq_self.2 fun t ht => decide_eq_true (hother t ht)
    rwa [hfilter] at h
  | succ k ih =>
    rw [List.replicate_succ, List.flatten_cons] at hpairs
    obtain ⟨before, rest, rfl, hbefore, -, hrest⟩ := List.filter_eq_cons_iff.1 hpairs
    obtain ⟨inner, after, rfl, hmid, -, hafter⟩ := List.filter_eq_cons_iff.1 hrest
    have hkept : ∀ us : List Tag, (∀ t ∈ us, ¬ decide (t.name = n) = true) →
        us.filter (·.name ≠ n) = us := fun us hus =>
      List.filter_eq_self.2 fun t ht => by simpa using hus t ht
    have hnested := hinner before inner after rfl fun t ht => by simpa using hmid t ht
    rw [List.filter_append, List.filter_cons_of_neg (by simp [Tag.name]), List.filter_append,
      List.filter_cons_of_neg (by simp [Tag.name]), hkept before hbefore, hkept inner hmid,
      openAfter?_append] at h
    obtain ⟨between, hbetween, h⟩ := Option.bind_eq_some_iff.1 h
    rw [openAfter?_append, hnested.openAfter?_eq, Option.bind_some] at h
    rw [openAfter?_append, hbetween, Option.bind_some, openAfter?_opening, openAfter?_append,
      hnested.openAfter?_eq, Option.bind_some, openAfter?_closing]
    refine ih hafter (fun before' inner' after' heq => ?_) h
    refine hinner (before ++ .opening n :: (inner ++ .closing n :: before')) inner' after' ?_
    rw [heq]
    simp

/-- A tag that is opened below other tags is the last one in the end, if all tags of another name
that are opened above it are closed.  Above it stand the tags `top` so far. -/
theorem openAfter?_insert {e : List Char} {top : List (List Char)}
    (hts : ∀ t ∈ ts, t.name = n ∨ t.name = e) (htop : ∀ k ∈ top, k = n ∨ k = e)
    (h : openAfter? (top ++ below) ts = some names')
    (hn : openAfter? (top.filter (· = n)) (ts.filter (·.name = n)) = some []) :
    openAfter? (top ++ e :: below) ts = some (e :: names') := by
  induction ts generalizing top below with
  | nil =>
    obtain rfl := Option.some.inj h
    have hnone : top.filter (· = n) = [] := Option.some.inj hn
    have hrepeat : top = List.replicate top.length e := by
      refine List.eq_replicate_iff.2 ⟨rfl, fun k hk => (htop k hk).resolve_left fun hkn => ?_⟩
      have hmem : k ∈ top.filter (· = n) := List.mem_filter.2 ⟨hk, decide_eq_true hkn⟩
      rw [hnone] at hmem
      cases hmem
    rw [openAfter?, hrepeat, List.append_cons, ← List.replicate_succ', List.replicate_succ]
    rfl
  | cons t ts ih =>
    obtain ⟨ht, hrest⟩ := List.forall_mem_cons.1 hts
    cases t with
    | opening k =>
      rw [openAfter?_opening] at h ⊢
      refine @ih below (k :: top) hrest (List.forall_mem_cons.2 ⟨ht, htop⟩) h ?_
      by_cases hkn : k = n
      · rw [List.filter_cons_of_pos (by simp [Tag.name, hkn]), openAfter?_opening] at hn
        rwa [List.filter_cons_of_pos (by simp [hkn])]
      · rw [List.filter_cons_of_neg (by simp [Tag.name, hkn])] at hn
        rwa [List.filter_cons_of_neg (by simp [hkn])]
    | closing k =>
      obtain ⟨names, hnames, hafter⟩ := exists_of_openAfter?_closing h
      by_cases hkn : k = n
      · -- the tag that is closed was opened above the other one
        rw [List.filter_cons_of_pos (by simp [Tag.name, hkn])] at hn
        obtain ⟨open', hopen, hn⟩ := exists_of_openAfter?_closing hn
        cases top with
        | nil => cases hopen
        | cons k' top =>
          obtain ⟨rfl, rfl⟩ := List.cons.inj hnames
          rw [List.filter_cons_of_pos (by simp [hkn])] at hopen
          obtain ⟨-, rfl⟩ := List.cons.inj hopen
          rw [List.cons_append, openAfter?_closing]
          exact ih hrest (List.forall_mem_cons.1 htop).2 hafter hn
      · rw [List.filter_cons_of_neg (by simp [Tag.name, hkn])] at hn
        cases top with
        | nil =>
          -- the tag that is closed has the name of the other one, which takes its place
          obtain rfl : k = e := ht.resolve_left hkn
          obtain rfl : below = k :: names := hnames
          rw [List.nil_append, openAfter?_closing]
          exact @ih names [] hrest htop hafter hn
        | cons k' top =>
          obtain ⟨rfl, rfl⟩ := List.cons.inj hnames
          rw [List.filter_cons_of_neg (by simp [hkn])] at hn
          rw [List.cons_append, openAfter?_closing]
          exact ih hrest (List.forall_mem_cons.1 htop).2 hafter hn

/-! ### The tags of emphasis -/

namespace Markup

variable {marks : List EmphasisMark} {found : List (List Markup)} {xs ys : List Markup}

namespace Emphasized

/-- A pass leaves the tags of other names as they are. -/
theorem filter_tags_eq (hmarks : ∀ m ∈ marks, m.tag ≠ n) (h : Emphasized marks found xs ys) :
    (tags ys).filter (·.name = n) = (tags xs).filter (·.name = n) := by
  induction h with
  | nil => rfl
  | keep x h ih =>
    cases x with
    | char c => exact ih
    | tag t => simp only [tags_cons_tag, List.filter_cons, ih]
  | @stretch m hm body found xs ys h ih =>
    have hname := hmarks m hm
    simp only [tags_append, tags_map_char, tags_cons_tag, List.nil_append, List.filter_append]
    rw [List.filter_cons_of_neg (by simp [Tag.name, hname]), List.filter_append,
      List.filter_cons_of_neg (by simp [Tag.name, hname]), ih]

/-- The tags of a pass over a text without tags come in pairs, none of them in another. -/
theorem tags_eq_pairs (hmarks : ∀ m ∈ marks, m.tag = n) (h : Emphasized marks found xs ys)
    (hxs : tags xs = []) :
    ∃ k, tags ys = (List.replicate k [.opening n, .closing n]).flatten := by
  induction h with
  | nil => exact ⟨0, rfl⟩
  | keep x h ih =>
    cases x with
    | char c => exact ih hxs
    | tag t => cases hxs
  | @stretch m hm body found xs ys h ih =>
    simp only [tags_append, tags_map_char, List.nil_append, List.append_eq_nil_iff] at hxs
    obtain ⟨k, hk⟩ := ih hxs.2
    refine ⟨k + 1, ?_⟩
    simp only [tags_cons_tag, tags_append, hxs.1, hk, hmarks m hm, List.replicate_succ,
      List.flatten_cons, List.nil_append, List.cons_append]

/-- Tags of one name stay nested when a pass adds tags of this name. -/
theorem openAfter?_filter_tags (hmarks : ∀ m ∈ marks, m.tag = n) (h : Emphasized marks found xs ys)
    (hxs : openAfter? names ((tags xs).filter (·.name = n)) = some names') :
    openAfter? names ((tags ys).filter (·.name = n)) = some names' := by
  induction h generalizing names with
  | nil => exact hxs
  | keep x h ih =>
    cases x with
    | char c => exact ih hxs
    | tag t =>
      rw [tags_cons_tag] at hxs ⊢
      by_cases hname : t.name = n
      · rw [List.filter_cons_of_pos (by simp [hname])] at hxs ⊢
        exact openAfter?_cons_of_imp (fun _ => ih) hxs
      · rw [List.filter_cons_of_neg (by simp [hname])] at hxs ⊢
        exact ih hxs
  | @stretch m hm body found xs ys h ih =>
    have hname := hmarks m hm
    simp only [tags_append, tags_map_char, tags_cons_tag, List.nil_append, List.filter_append]
      at hxs ⊢
    rw [openAfter?_append] at hxs
    obtain ⟨between, hbody, hxs⟩ := Option.bind_eq_some_iff.1 hxs
    have hwithin :
        openAfter? (n :: names) ((tags body).filter (·.name = n)) = some (n :: between) :=
      openAfter?_cons_same (fun t ht => of_decide_eq_true (List.mem_filter.1 ht).2) hbody
    rw [List.filter_cons_of_pos (by simp [Tag.name, hname]), List.filter_append,
      List.filter_cons_of_pos (by simp [Tag.name, hname]), hname, openAfter?_opening,
      openAfter?_append, hwithin, Option.bind_some, openAfter?_closing]
    exact ih hxs

theorem nested_filter_tags (hmarks : ∀ m ∈ marks, m.tag = n) (h : Emphasized marks found xs ys)
    (hxs : Nested ((tags xs).filter (·.name = n))) : Nested ((tags ys).filter (·.name = n)) :=
  h.openAfter?_filter_tags hmarks hxs

/-- All tags stay nested when a pass adds tags of one name, if within its stretches those of the
other name nest. -/
theorem openAfter?_tags {e : List Char} (hmarks : ∀ m ∈ marks, m.tag = e)
    (h : Emphasized marks found xs ys) (hnames : ∀ t ∈ tags xs, t.name = n ∨ t.name = e)
    (hfound : ∀ body ∈ found, Nested ((tags body).filter (·.name = n)))
    (hxs : openAfter? names (tags xs) = some names') :
    openAfter? names (tags ys) = some names' := by
  induction h generalizing names with
  | nil => exact hxs
  | keep x h ih =>
    cases x with
    | char c => exact ih hnames hfound hxs
    | tag t =>
      rw [tags_cons_tag] at hnames hxs ⊢
      have hrest := (List.forall_mem_cons.1 hnames).2
      exact openAfter?_cons_of_imp (fun _ => ih hrest hfound) hxs
  | @stretch m hm body found xs ys h ih =>
    obtain ⟨hbody, hfound⟩ := List.forall_mem_cons.1 hfound
    simp only [tags_append, tags_map_char, tags_cons_tag, List.nil_append] at hnames hxs ⊢
    obtain ⟨hinner, hrest⟩ := List.forall_mem_append.1 hnames
    rw [openAfter?_append] at hxs
    obtain ⟨between, hbetween, hxs⟩ := Option.bind_eq_some_iff.1 hxs
    have hinsert : openAfter? ([] ++ e :: names) (tags body) = some (e :: between) :=
      openAfter?_insert hinner (fun _ hk => absurd hk List.not_mem_nil) hbetween hbody
    rw [hmarks m hm, openAfter?_opening, openAfter?_append, ← List.nil_append (e :: names), hinsert,
      Option.bind_some, openAfter?_closing]
    exact ih hrest hfound hxs

/-- Where a pass adds the first tags of a name and all tags nest, they nest within its stretches. -/
theorem nested_of_mem_found {e : List Char} (hmarks : ∀ m ∈ marks, m.tag = e)
    (h : Emphasized marks found xs ys) (hnames : ∀ t ∈ tags xs, t.name ≠ e)
    (hys : openAfter? names (tags ys) = some names') : ∀ body ∈ found, Nested (tags body) := by
  induction h generalizing names with
  | nil => exact fun _ hmem => absurd hmem List.not_mem_nil
  | keep x h ih =>
    cases x with
    | char c => exact ih hnames hys
    | tag t =>
      rw [tags_cons_tag] at hnames hys
      have hrest := (List.forall_mem_cons.1 hnames).2
      cases t with
      | opening k => exact ih hrest hys
      | closing k =>
        obtain ⟨below, -, hys⟩ := exists_of_openAfter?_closing hys
        exact ih hrest hys
  | @stretch m hm body found xs ys h ih =>
    simp only [tags_append, tags_map_char, tags_cons_tag, List.nil_append] at hnames hys
    obtain ⟨hinner, hrest⟩ := List.forall_mem_append.1 hnames
    rw [hmarks m hm, openAfter?_opening] at hys
    obtain ⟨hbody, hys⟩ := nested_of_closed hinner hys
    exact List.forall_mem_cons.2 ⟨hbody, ih hrest hys⟩

theorem eq_of_found_eq_nil (h : Emphasized marks found xs ys) (hnone : found = []) : ys = xs := by
  induction h with
  | nil => rfl
  | keep x h ih => rw [ih hnone]
  | stretch hm body h ih => cases hnone

end Emphasized

end Markup

/-! ### Where stretches cross -/

/-- A stretch holds tags for strong text that do not nest, so one of them without the other one of
its pair. -/
def Crosses (body : List Char) : Prop := ¬ Nested ((tagsIn body).filter (·.name = "strong".toList))

instance (body : List Char) : Decidable (Crosses body) := inferInstanceAs (Decidable (¬ _))

/-- A pass whose marks do not come in a text finds nothing in it. -/
theorem stretches_eq_nil {marks : List EmphasisMark} {s : List Char} (before : Option Char)
    (h : ∀ m ∈ marks, ¬ m.text <:+: s) : stretches marks before s = [] := by
  induction s generalizing before with
  | nil => rw [stretches]
  | cons c s ih =>
    have hspan : spanOf? before (c :: s) marks = none := by
      refine Option.eq_none_iff_forall_ne_some.2 fun span hspan => ?_
      obtain ⟨m, body, rest⟩ := span
      obtain ⟨hm, hs⟩ := eq_of_spanOf? hspan
      exact h m hm ⟨[], body ++ m.text ++ rest, by simp [hs]⟩
    rw [stretches_of_no_span hspan]
    exact ih (some c) fun m hm hmark => h m hm (hmark.trans (List.suffix_cons c s).isInfix)

structure EmphasisNesting (s : List Char) : Prop where
  /-- The tags for strong text come in pairs, none of them in another. -/
  pairs : ∃ k, (tagsIn (emphasize s)).filter (·.name = "strong".toList) =
    (List.replicate k [.opening "strong".toList, .closing "strong".toList]).flatten
  /-- Those for stressed text nest if nothing else is read. -/
  stressed : Nested ((tagsIn (emphasize s)).filter (·.name = "em".toList))
  /-- All tags nest if no stretch of stressed text crosses a pair for strong text. -/
  of_not_crosses : (∀ body ∈ starStretches s ++ lowLineStretches s, ¬ Crosses body) →
    Nested (tagsIn (emphasize s))
  /-- That is necessary if there is stressed text between stars only, or between low lines only. -/
  not_crosses : starStretches s = [] ∨ lowLineStretches s = [] → Nested (tagsIn (emphasize s)) →
    ∀ body ∈ starStretches s ++ lowLineStretches s, ¬ Crosses body
  /-- In particular all tags nest if no two stars and no two low lines stand side by side. -/
  of_no_strong : ¬ ['*', '*'] <:+: s → ¬ ['_', '_'] <:+: s → Nested (tagsIn (emphasize s))
  /-- In any case they nest exactly if those for stressed text nest within each strong pair. -/
  nested_iff : Nested (tagsIn (emphasize s)) ↔ ∀ before inner after,
    tagsIn (emphasize s) =
      before ++ .opening "strong".toList :: (inner ++ .closing "strong".toList :: after) →
        (∀ t ∈ inner, t.name ≠ "strong".toList) → Nested inner

namespace Passes

open Markup

variable {s : List Char} (p : Passes s)

theorem tagsIn_emphasize : tagsIn (emphasize s) = tags p.all := by
  rw [p.emphasize_eq, tagsIn_text p.isEmphasis_all]

/-- The first pass makes all tags for strong text. -/
theorem name_of_mem_strong {t : Tag} (h : t ∈ tags p.strong) : t.name = "strong".toList := by
  obtain ⟨k, hk⟩ := p.strong_eq.tags_eq_pairs (show ∀ m ∈ strongMarks, m.tag = "strong".toList by
    decide) (tags_map_char s)
  rw [hk] at h
  obtain ⟨pair, hpair, ht⟩ := List.mem_flatten.1 h
  rw [List.eq_of_mem_replicate hpair] at ht
  simp only [List.mem_cons, List.not_mem_nil, or_false] at ht
  rcases ht with rfl | rfl <;> rfl

theorem filter_strong : (tags p.all).filter (·.name = "strong".toList) = tags p.strong := by
  rw [p.all_eq.filter_tags_eq (by decide), p.stars_eq.filter_tags_eq (by decide)]
  exact List.filter_eq_self.2 fun t ht => decide_eq_true (p.name_of_mem_strong ht)

theorem nested_strong : Nested (tags p.strong) := by
  have hnone : openAfter? [] (tags (s.map char)) = some [] := by rw [tags_map_char, openAfter?]
  refine p.strong_eq.openAfter?_tags (n := "em".toList) (e := "strong".toList) (by decide)
    (by simp) (fun body hbody => ?_) hnone
  have hchars : tags body = [] := by
    refine List.filterMap_eq_nil_iff.2 fun x hx => ?_
    obtain ⟨c, -, rfl⟩ := List.mem_map.1 (p.strong_eq.subset_of_mem_found body hbody hx)
    rfl
  rw [hchars]
  rfl

theorem nested_filter_stressed : Nested ((tags p.all).filter (·.name = "em".toList)) := by
  have hnone : (tags p.strong).filter (·.name = "em".toList) = [] := by
    rw [p.strong_eq.filter_tags_eq (by decide), tags_map_char]
    rfl
  refine p.all_eq.nested_filter_tags (by decide) (p.stars_eq.nested_filter_tags (by decide) ?_)
  rw [hnone]
  rfl

theorem strong_or_stressed {xs : List Markup} (h : ∀ x ∈ xs, IsEmphasis x) :
    ∀ t ∈ tags xs, t.name = "strong".toList ∨ t.name = "em".toList := by
  intro t ht
  simpa [emphasisNames] using name_of_mem_tags h t ht

/-- Tags that are not for strong text are for stressed text. -/
theorem filter_not_strong : (tags p.all).filter (·.name ≠ "strong".toList) =
    (tags p.all).filter (·.name = "em".toList) := by
  refine List.filter_congr fun t ht => ?_
  rcases strong_or_stressed p.isEmphasis_all t ht with hname | hname <;> rw [hname] <;> decide

/-- The stretches of a pass cross nothing exactly if their tags for strong text nest. -/
theorem not_crosses_iff {found : List (List Markup)} {xs ys : List Markup}
    {marks : List EmphasisMark} (h : Emphasized marks found xs ys) (hxs : ∀ x ∈ xs, IsEmphasis x) :
    (∀ body ∈ found.map text, ¬ Crosses body) ↔
      ∀ body ∈ found, Nested ((tags body).filter (·.name = "strong".toList)) := by
  rw [List.forall_mem_map]
  refine forall₂_congr fun body hbody => ?_
  rw [Crosses, Decidable.not_not,
    tagsIn_text fun x hx => hxs x (h.subset_of_mem_found body hbody hx)]

theorem nested_of_not_crosses (h : ∀ body ∈ starStretches s ++ lowLineStretches s, ¬ Crosses body) :
    Nested (tags p.all) := by
  obtain ⟨hstars, hlowLines⟩ := List.forall_mem_append.1 h
  rw [p.starStretches_eq, not_crosses_iff p.stars_eq p.isEmphasis_strong] at hstars
  rw [p.lowLineStretches_eq, not_crosses_iff p.all_eq p.isEmphasis_stars] at hlowLines
  exact p.all_eq.openAfter?_tags (by decide) (strong_or_stressed p.isEmphasis_stars) hlowLines
    (p.stars_eq.openAfter?_tags (by decide) (strong_or_stressed p.isEmphasis_strong) hstars
      p.nested_strong)

/-- One pass alone for stressed text: where all tags nest, nothing is crossed. -/
theorem not_crosses_of_nested {found : List (List Markup)} {ys : List Markup}
    {m : EmphasisMark} (hm : m.tag = "em".toList) (h : Emphasized [m] found p.strong ys)
    (hnested : Nested (tags ys)) : ∀ body ∈ found.map text, ¬ Crosses body := by
  rw [not_crosses_iff h p.isEmphasis_strong]
  intro body hbody
  have hstrong : ∀ t ∈ tags body, t.name = "strong".toList := fun t ht => by
    obtain ⟨x, hx, htag⟩ := List.mem_filterMap.1 ht
    exact p.name_of_mem_strong
      (List.mem_filterMap.2 ⟨x, h.subset_of_mem_found body hbody hx, htag⟩)
  rw [List.filter_eq_self.2 fun t ht => decide_eq_true (hstrong t ht)]
  refine h.nested_of_mem_found (e := "em".toList) (by simpa using hm) (fun t ht => ?_) hnested body
    hbody
  rw [p.name_of_mem_strong ht]
  decide

/-- Without strong text all tags are for stressed text. -/
theorem nested_of_no_strong (h : strongStretches s = []) : Nested (tags p.all) := by
  have hstrong : tags p.strong = [] := by
    rw [p.strongStretches_eq, List.map_eq_nil_iff] at h
    rw [p.strong_eq.eq_of_found_eq_nil h, tags_map_char]
  have hall : (tags p.all).filter (·.name = "em".toList) = tags p.all := by
    refine List.filter_eq_self.2 fun t ht => decide_eq_true ?_
    refine (strong_or_stressed p.isEmphasis_all t ht).resolve_left fun hname => ?_
    have hmem : t ∈ (tags p.all).filter (·.name = "strong".toList) :=
      List.mem_filter.2 ⟨ht, decide_eq_true hname⟩
    rw [p.filter_strong, hstrong] at hmem
    cases hmem
  exact hall ▸ p.nested_filter_stressed

end Passes

/-- **Which tags nest.**  All tags nest if no stretch of stressed text crosses a pair for strong
text; if there is stressed text of one kind only, they nest in no other case. -/
theorem nested_emphasize (s : List Char) (h : '<' ∉ s) : EmphasisNesting s := by
  obtain ⟨p⟩ := exists_passes h
  have hpairs := p.strong_eq.tags_eq_pairs (show ∀ m ∈ strongMarks, m.tag = "strong".toList by
    decide) (Markup.tags_map_char s)
  rw [← p.filter_strong] at hpairs
  have htags := p.tagsIn_emphasize
  refine ⟨htags ▸ hpairs, htags ▸ p.nested_filter_stressed, fun hnot => ?_, fun hone hnested => ?_,
    fun hstars hlowLines => ?_, ?_⟩
  · rw [htags]
    exact p.nested_of_not_crosses hnot
  · rw [htags] at hnested
    rcases hone with hnone | hnone
    · have hbodies : p.starBodies = [] := List.map_eq_nil_iff.1 (p.starStretches_eq ▸ hnone)
      have hsame : p.stars = p.strong := p.stars_eq.eq_of_found_eq_nil hbodies
      rw [hnone, List.nil_append, p.lowLineStretches_eq]
      exact p.not_crosses_of_nested rfl (hsame ▸ p.all_eq) hnested
    · have hbodies : p.lowLineBodies = [] := List.map_eq_nil_iff.1 (p.lowLineStretches_eq ▸ hnone)
      have hsame : p.all = p.stars := p.all_eq.eq_of_found_eq_nil hbodies
      rw [hnone, List.append_nil, p.starStretches_eq]
      exact p.not_crosses_of_nested rfl p.stars_eq (hsame ▸ hnested)
  · rw [htags]
    refine p.nested_of_no_strong (stretches_eq_nil none fun m hm => ?_)
    simp only [strongMarks, List.mem_cons, List.not_mem_nil, or_false] at hm
    rcases hm with rfl | rfl
    · exact hstars
    · exact hlowLines
  · rw [htags]
    refine ⟨fun hnested before inner after heq hinner => ?_, fun hinner => ?_⟩
    · rw [heq] at hnested
      exact hnested.between hinner
    · obtain ⟨k, hk⟩ := hpairs
      exact openAfter?_of_pairs hk hinner (p.filter_not_strong ▸ p.nested_filter_stressed)

theorem nested_emphasize_within :
    '<' ∉ "**a *b* c** _d **e** f_".toList ∧
      (∀ body ∈ starStretches "**a *b* c** _d **e** f_".toList ++
        lowLineStretches "**a *b* c** _d **e** f_".toList, ¬ Crosses body) ∧
      Nested (tagsIn (emphasize "**a *b* c** _d **e** f_".toList)) :=
  have hno : '<' ∉ "**a *b* c** _d **e** f_".toList := by decide
  have hnot : ∀ body ∈ starStretches "**a *b* c** _d **e** f_".toList ++
      lowLineStretches "**a *b* c** _d **e** f_".toList, ¬ Crosses body := by decide +kernel
  ⟨hno, hnot, (nested_emphasize _ hno).of_not_crosses hnot⟩

/-- **Tags may cross.**  Three stars on both sides open strong text first, and close it first. -/
theorem not_nested_threeStars :
    '<' ∉ "***a***".toList ∧ ¬ Nested (tagsIn (emphasize "***a***".toList)) :=
  ⟨by decide, by decide +kernel⟩

/-- Two stretches that cross one pair can make up for each other. -/
example : (∀ body ∈ starStretches "_x **a *b c_ d** e*".toList ++
    lowLineStretches "_x **a *b c_ d** e*".toList, Crosses body) ∧
    Nested (tagsIn (emphasize "_x **a *b c_ d** e*".toList)) := by decide +kernel

end SiteTemplates.Text
