import SiteTemplates.Text.Emphasis
import SiteTemplates.Text.Tag

/-!
# What emphasis does to a text

A pass of emphasis keeps characters and puts tags in the places of the marks around each stretch
that it finds (`Tagged`, `stretches`).  The next pass reads those tags along with the text, but it
never takes a mark from one of them, since no tag holds a star or a low line.  So a text that was
given tags stays a list of characters and whole tags (`Markup`), and each pass only puts more tags
around parts of that list (`Emphasized`).

Hence nothing but marks gets lost: without the tags and the marks, the text is what it was
(`emphasize_keeps_unmarked`).
-/

namespace SiteTemplates.Text

variable {marks : List EmphasisMark} {m : EmphasisMark} {s t rest : List Char}

/-! ### One pass -/

def stretches (marks : List EmphasisMark) (before : Option Char) (s : List Char) :
    List (List Char) :=
  match s with
  | [] => []
  | c :: rest =>
    match h : spanOf? before (c :: rest) marks with
    | some (m, body, after) =>
      have := length_of_spanOf? h
      body :: stretches marks m.text.getLast? after
    | none => stretches marks (some c) rest
termination_by s.length
decreasing_by all_goals simp only [List.length_cons] at *; omega

/-- What one pass may make of a text where it finds these stretches: characters are kept, and tags
take the places of the two marks around a stretch, which itself is kept. -/
inductive Tagged (marks : List EmphasisMark) : List (List Char) → List Char → List Char → Prop
  | nil : Tagged marks [] [] []
  | keep (c : Char) {found : List (List Char)} {s t : List Char} (h : Tagged marks found s t) :
      Tagged marks found (c :: s) (c :: t)
  | stretch {m : EmphasisMark} (hm : m ∈ marks) (body : List Char) {found : List (List Char)}
      {s t : List Char} (h : Tagged marks found s t) :
      Tagged marks (body :: found) (m.text ++ body ++ m.text ++ s) (m.tagged body ++ t)

namespace EmphasisMark

theorem eq_of_after? (h : m.after? s = some rest) : s = m.text ++ rest := by
  unfold after? at h
  split at h
  · rename_i hprefix
    cases h
    obtain ⟨after, rfl⟩ := List.isPrefixOf_iff_prefix.1 hprefix
    rw [List.drop_left]
  · cases h

theorem eq_of_closes? {body : List Char} (h : m.closes? body s = some rest) :
    s = m.text ++ rest := by
  unfold closes? at h
  split at h
  · split at h
    · rename_i hafter
      split at h
      · cases h
      · cases h
        exact eq_of_after? hafter
    · cases h
  · cases h

theorem eq_of_stretch? {body inner : List Char} (h : m.stretch? body s = some (inner, rest)) :
    body.reverse ++ s = inner ++ m.text ++ rest := by
  induction s generalizing body with
  | nil => cases h
  | cons c s ih =>
    rw [stretch?] at h
    split at h
    · rename_i hcloses
      cases h
      rw [eq_of_closes? hcloses, List.append_assoc]
    · rw [← ih h, List.reverse_cons, List.append_assoc, List.singleton_append]

theorem eq_of_span? {before : Option Char} {body : List Char}
    (h : m.span? before s = some (body, rest)) : s = m.text ++ body ++ m.text ++ rest := by
  unfold span? at h
  split at h
  · rename_i hafter
    split at h
    · rw [eq_of_after? hafter, List.append_assoc, List.append_assoc, ← List.append_assoc body,
        ← eq_of_stretch? h, List.reverse_nil, List.nil_append]
    · cases h
  · cases h

end EmphasisMark

theorem eq_of_spanOf? {before : Option Char} {body : List Char}
    (h : spanOf? before s marks = some (m, body, rest)) :
    m ∈ marks ∧ s = m.text ++ body ++ m.text ++ rest := by
  induction marks with
  | nil => cases h
  | cons m' marks ih =>
    rw [spanOf?] at h
    split at h
    · rename_i hspan
      cases h
      exact ⟨List.mem_cons_self, EmphasisMark.eq_of_span? hspan⟩
    · obtain ⟨hm, hs⟩ := ih h
      exact ⟨List.mem_cons_of_mem _ hm, hs⟩

theorem stretches_of_span {before : Option Char} {c : Char} {body : List Char}
    (h : spanOf? before (c :: s) marks = some (m, body, rest)) :
    stretches marks before (c :: s) = body :: stretches marks m.text.getLast? rest := by
  rw [stretches]
  split
  · rename_i hspan
    rw [h] at hspan
    cases hspan
    rfl
  · rename_i hnone
    rw [h] at hnone
    cases hnone

theorem stretches_of_no_span {before : Option Char} {c : Char}
    (h : spanOf? before (c :: s) marks = none) :
    stretches marks before (c :: s) = stretches marks (some c) s := by
  rw [stretches]
  split
  · rename_i hspan
    rw [h] at hspan
    cases hspan
  · rfl

theorem exists_tagStretches_eq (marks : List EmphasisMark) (before : Option Char)
    (done s : List Char) :
    ∃ t, tagStretches marks before done s = done.reverse ++ t ∧
      Tagged marks (stretches marks before s) s t := by
  fun_induction tagStretches marks before done s with
  | case1 before done =>
    refine ⟨[], (List.append_nil _).symm, ?_⟩
    rw [stretches]
    exact .nil
  | case2 before done c rest m body after h _ ih =>
    obtain ⟨t, ht, htagged⟩ := ih
    obtain ⟨hm, hs⟩ := eq_of_spanOf? h
    refine ⟨m.tagged body ++ t, ?_, ?_⟩
    · rw [ht, List.reverse_append, List.reverse_reverse, List.append_assoc]
    · rw [stretches_of_span h]
      exact hs ▸ .stretch hm body htagged
  | case3 before done c rest h ih =>
    obtain ⟨t, ht, htagged⟩ := ih
    refine ⟨c :: t, ?_, ?_⟩
    · rw [ht, List.reverse_cons, List.append_assoc, List.singleton_append]
    · rw [stretches_of_no_span h]
      exact .keep c htagged

/-! ### Tags in text -/

inductive Tag where
  | opening (name : List Char)
  | closing (name : List Char)
deriving DecidableEq, Repr

namespace Tag

/-- The name of the tag. -/
def name : Tag → List Char
  | opening name => name
  | closing name => name

def label : Tag → List Char
  | opening name => name
  | closing name => '/' :: name

def ofLabel : List Char → Tag
  | '/' :: name => closing name
  | name => opening name

def written (t : Tag) : List Char := '<' :: t.label ++ ['>']

end Tag

/-- Reads the tags of a text.  The label of a tag that is open is kept in `label` (last first). -/
def tagsFrom (label : Option (List Char)) : List Char → List Tag
  | [] => []
  | c :: rest =>
    match label with
    | none => if c = '<' then tagsFrom (some []) rest else tagsFrom none rest
    | some l =>
      if c = '>' then Tag.ofLabel l.reverse :: tagsFrom none rest
      else tagsFrom (some (c :: l)) rest

/-- The tags of a text, which are what `stripTags` leaves out. -/
def tagsIn (s : List Char) : List Tag := tagsFrom none s

theorem stripTagsFrom_label {label : List Char} (h : '>' ∉ label) (done tag rest : List Char) :
    stripTagsFrom done (some tag) (label ++ '>' :: rest) = stripTagsFrom done none rest := by
  induction label generalizing tag with
  | nil => rfl
  | cons c label ih =>
    rw [List.mem_cons, not_or] at h
    rw [List.cons_append, stripTagsFrom]
    exact (if_neg (Ne.symm h.1)).trans (ih h.2 (c :: tag))

theorem tagsFrom_label {label : List Char} (h : '>' ∉ label) (l rest : List Char) :
    tagsFrom (some l) (label ++ '>' :: rest) =
      Tag.ofLabel (l.reverse ++ label) :: tagsIn rest := by
  induction label generalizing l with
  | nil => rw [List.append_nil]; rfl
  | cons c label ih =>
    rw [List.mem_cons, not_or] at h
    rw [List.cons_append, tagsFrom]
    refine (if_neg (Ne.symm h.1)).trans ?_
    rw [ih h.2, List.reverse_cons, List.append_assoc, List.singleton_append]

/-- A character of a text or one of its tags. -/
inductive Markup where
  | char (c : Char)
  | tag (t : Tag)

namespace Markup

variable {x : Markup} {xs ys : List Markup}

def written : Markup → List Char
  | char c => [c]
  | tag t => t.written

def char? : Markup → Option Char
  | char c => some c
  | tag _ => none

def tag? : Markup → Option Tag
  | char _ => none
  | tag t => some t

def text (xs : List Markup) : List Char := xs.flatMap written

def chars (xs : List Markup) : List Char := xs.filterMap char?

def tags (xs : List Markup) : List Tag := xs.filterMap tag?

/-- The names of the tags for strong and for stressed text. -/
def emphasisNames : List (List Char) := ["strong".toList, "em".toList]

/-- What a text without `<` may get: tags for strong and stressed text, and its own characters. -/
def IsEmphasis : Markup → Prop
  | char c => c ≠ '<'
  | tag t => t.name ∈ emphasisNames

theorem label_of_isEmphasis {t : Tag} (h : IsEmphasis (tag t)) :
    '>' ∉ t.label ∧ Tag.ofLabel t.label = t ∧ ∀ c, c = '*' ∨ c = '_' → c ∉ t.written := by
  have hnames : ∀ n ∈ emphasisNames, '>' ∉ n ∧ Tag.ofLabel n = .opening n ∧
      '*' ∉ (Tag.opening n).written ∧ '_' ∉ (Tag.opening n).written ∧ '>' ∉ '/' :: n ∧
      '*' ∉ (Tag.closing n).written ∧ '_' ∉ (Tag.closing n).written := by decide
  cases t with
  | opening n =>
    obtain ⟨hlabel, hof, hstar, hlowLine, -⟩ := hnames n h
    exact ⟨hlabel, hof, fun c hc => by rcases hc with rfl | rfl <;> assumption⟩
  | closing n =>
    obtain ⟨-, -, -, -, hlabel, hstar, hlowLine⟩ := hnames n h
    exact ⟨hlabel, rfl, fun c hc => by rcases hc with rfl | rfl <;> assumption⟩

/-- The tags are left out and the characters stay. -/
theorem stripTags_text (h : ∀ x ∈ xs, IsEmphasis x) : stripTags (text xs) = chars xs := by
  have hfrom : ∀ done, stripTagsFrom done none (text xs) = done.reverse ++ chars xs := by
    induction xs with
    | nil => exact fun done => (List.append_nil _).symm
    | cons x xs ih =>
      obtain ⟨hx, hxs⟩ := List.forall_mem_cons.1 h
      intro done
      cases x with
      | char c =>
        have hc : c ≠ '<' := hx
        show stripTagsFrom done none (c :: text xs) = done.reverse ++ c :: chars xs
        rw [stripTagsFrom]
        refine (if_neg hc).trans ?_
        rw [ih hxs, List.reverse_cons, List.append_assoc, List.singleton_append]
      | tag t =>
        have htext : text (tag t :: xs) = '<' :: (t.label ++ '>' :: text xs) := by
          simp [text, written, Tag.written]
        rw [htext, stripTagsFrom]
        refine (if_pos rfl).trans ?_
        rw [stripTagsFrom_label (label_of_isEmphasis hx).1, ih hxs]
        rfl
  exact hfrom []

theorem tagsIn_text (h : ∀ x ∈ xs, IsEmphasis x) : tagsIn (text xs) = tags xs := by
  induction xs with
  | nil => rfl
  | cons x xs ih =>
    obtain ⟨hx, hxs⟩ := List.forall_mem_cons.1 h
    cases x with
    | char c =>
      have hc : c ≠ '<' := hx
      show tagsFrom none (c :: text xs) = tags xs
      rw [tagsFrom]
      exact (if_neg hc).trans (ih hxs)
    | tag t =>
      obtain ⟨hlabel, hof, -⟩ := label_of_isEmphasis hx
      have htext : text (tag t :: xs) = '<' :: (t.label ++ '>' :: text xs) := by
        simp [text, written, Tag.written]
      rw [htext, tagsIn, tagsFrom]
      refine (if_pos rfl).trans ?_
      rw [tagsFrom_label hlabel, List.reverse_nil, List.nil_append, hof, ih hxs]
      rfl

theorem name_of_mem_tags (h : ∀ x ∈ xs, IsEmphasis x) : ∀ t ∈ tags xs, t.name ∈ emphasisNames := by
  intro t ht
  obtain ⟨x, hx, htag⟩ := List.mem_filterMap.1 ht
  cases x with
  | char c => cases htag
  | tag u => exact Option.some.inj htag ▸ h _ hx

theorem not_mem_chars (h : ∀ x ∈ xs, IsEmphasis x) : '<' ∉ chars xs := by
  intro hmem
  obtain ⟨x, hx, hchar⟩ := List.mem_filterMap.1 hmem
  cases x with
  | char c => exact h _ hx (Option.some.inj hchar)
  | tag t => cases hchar

/-! ### Marks are never taken from tags -/

@[simp] theorem text_cons (x : Markup) (xs : List Markup) : text (x :: xs) = x.written ++ text xs :=
  rfl

@[simp] theorem text_append (xs ys : List Markup) : text (xs ++ ys) = text xs ++ text ys :=
  List.flatMap_append

@[simp] theorem text_map_char (s : List Char) : text (s.map char) = s := by
  induction s with
  | nil => rfl
  | cons c s ih => rw [List.map_cons, text_cons, ih]; rfl

theorem eq_nil_of_text_eq_nil (h : text xs = []) : xs = [] := by
  cases xs with
  | nil => rfl
  | cons x xs => cases x <;> cases h

/-- Where a mark character stands in a text with tags, it stands outside tags. -/
theorem exists_of_text_eq {c : Char} (hc : c = '*' ∨ c = '_') (hxs : ∀ x ∈ xs, IsEmphasis x)
    {before after : List Char} (h : text xs = before ++ c :: after) :
    ∃ ys zs, xs = ys ++ char c :: zs ∧ text ys = before ∧ text zs = after := by
  induction xs generalizing before with
  | nil => exact absurd h.symm (List.append_ne_nil_of_right_ne_nil _ (List.cons_ne_nil _ _))
  | cons x xs ih =>
    obtain ⟨hx, hrest⟩ := List.forall_mem_cons.1 hxs
    cases x with
    | char d =>
      cases before with
      | nil =>
        obtain ⟨rfl, rfl⟩ := List.cons.inj h
        exact ⟨[], xs, rfl, rfl, rfl⟩
      | cons e before =>
        obtain ⟨rfl, htext⟩ := List.cons.inj h
        obtain ⟨ys, zs, rfl, rfl, rfl⟩ := ih hrest htext
        exact ⟨char d :: ys, zs, rfl, rfl, rfl⟩
    | tag t =>
      have hno : c ∉ t.written := (label_of_isEmphasis hx).2.2 c hc
      rw [text_cons] at h
      rcases List.append_eq_append_iff.1 h with ⟨between, rfl, htext⟩ | ⟨between, hwritten, htext⟩
      · obtain ⟨ys, zs, rfl, rfl, rfl⟩ := ih hrest htext
        exact ⟨tag t :: ys, zs, rfl, rfl, rfl⟩
      · have hnil : between = [] := by
          refine List.eq_nil_iff_forall_not_mem.2 fun d hd => ?_
          obtain ⟨e, between, rfl⟩ := List.exists_cons_of_ne_nil (List.ne_nil_of_mem hd)
          obtain ⟨rfl, -⟩ := List.cons.inj htext
          exact hno (show c ∈ (tag t).written by rw [hwritten]; simp)
        subst hnil
        rw [List.append_nil] at hwritten
        obtain ⟨ys, zs, rfl, hys, rfl⟩ := ih hrest (show text xs = [] ++ c :: after from htext.symm)
        exact ⟨tag t :: ys, zs, rfl, by rw [text_cons, hys, List.append_nil, ← hwritten], rfl⟩

/-- A mark at the start of a text with tags stands before them. -/
theorem exists_of_text_eq_mark {w : List Char} (hw : ∀ c ∈ w, c = '*' ∨ c = '_')
    (hxs : ∀ x ∈ xs, IsEmphasis x) {after : List Char} (h : text xs = w ++ after) :
    ∃ zs, xs = w.map char ++ zs ∧ text zs = after := by
  induction w generalizing xs with
  | nil => exact ⟨xs, rfl, h⟩
  | cons c w ih =>
    obtain ⟨hc, hrest⟩ := List.forall_mem_cons.1 hw
    obtain ⟨ys, zs, rfl, hys, hzs⟩ :=
      exists_of_text_eq hc hxs (show text xs = [] ++ c :: (w ++ after) from h)
    obtain rfl := eq_nil_of_text_eq_nil hys
    obtain ⟨zs, rfl, hafter⟩ := ih hrest (List.forall_mem_cons.1 hxs).2 hzs
    exact ⟨zs, rfl, hafter⟩

/-- A mark in a text with tags stands between them. -/
theorem exists_of_text_eq_append_mark {w : List Char} (hne : w ≠ [])
    (hw : ∀ c ∈ w, c = '*' ∨ c = '_') (hxs : ∀ x ∈ xs, IsEmphasis x) {before after : List Char}
    (h : text xs = before ++ (w ++ after)) :
    ∃ ys zs, xs = ys ++ (w.map char ++ zs) ∧ text ys = before ∧ text zs = after := by
  obtain ⟨c, w, rfl⟩ := List.exists_cons_of_ne_nil hne
  obtain ⟨hc, hrest⟩ := List.forall_mem_cons.1 hw
  obtain ⟨ys, zs, rfl, hbefore, hzs⟩ := exists_of_text_eq hc hxs h
  have hplain := (List.forall_mem_cons.1 (List.forall_mem_append.1 hxs).2).2
  obtain ⟨zs, rfl, hafter⟩ := exists_of_text_eq_mark hrest hplain hzs
  exact ⟨ys, zs, rfl, hbefore, hafter⟩

/-- What one pass makes of a text with tags: it makes stretches of whole characters and tags. -/
inductive Emphasized (marks : List EmphasisMark) :
    List (List Markup) → List Markup → List Markup → Prop
  | nil : Emphasized marks [] [] []
  | keep (x : Markup) {found : List (List Markup)} {xs ys : List Markup}
      (h : Emphasized marks found xs ys) : Emphasized marks found (x :: xs) (x :: ys)
  | stretch {m : EmphasisMark} (hm : m ∈ marks) (body : List Markup) {found : List (List Markup)}
      {xs ys : List Markup} (h : Emphasized marks found xs ys) :
      Emphasized marks (body :: found) (m.text.map char ++ (body ++ (m.text.map char ++ xs)))
        (tag (.opening m.tag) :: (body ++ tag (.closing m.tag) :: ys))

end Markup

/-- A mark is made of stars or low lines, and its tag is one for strong or stressed text. -/
def EmphasisMark.IsPlain (m : EmphasisMark) : Prop :=
  m.text ≠ [] ∧ (∀ c ∈ m.text, c = '*' ∨ c = '_') ∧ m.tag ∈ Markup.emphasisNames

open Markup in
/-- A pass over a text with tags takes marks from its characters only, so every tag stays whole.
Where the pass has got into a tag, `p` is what is left of it. -/
theorem Tagged.exists_emphasized {found : List (List Char)} (hmarks : ∀ m ∈ marks, m.IsPlain)
    (h : Tagged marks found s t) {p : List Char} {xs : List Markup}
    (hp : ∀ c, c = '*' ∨ c = '_' → c ∉ p) (hxs : ∀ x ∈ xs, IsEmphasis x) (hs : s = p ++ text xs) :
    ∃ bodies ys, found = bodies.map text ∧ t = p ++ text ys ∧ Emphasized marks bodies xs ys := by
  induction h generalizing p xs with
  | nil =>
    obtain ⟨rfl, htext⟩ := List.append_eq_nil_iff.1 hs.symm
    obtain rfl := eq_nil_of_text_eq_nil htext
    exact ⟨[], [], rfl, rfl, .nil⟩
  | keep c h ih =>
    cases p with
    | cons d p =>
      obtain ⟨rfl, rfl⟩ := List.cons.inj hs
      obtain ⟨bodies, ys, hfound, rfl, hys⟩ :=
        ih (fun c hc hmem => hp c hc (List.mem_cons_of_mem _ hmem)) hxs rfl
      exact ⟨bodies, ys, hfound, rfl, hys⟩
    | nil =>
      cases xs with
      | nil => cases hs
      | cons x xs =>
        obtain ⟨hx, hrest⟩ := List.forall_mem_cons.1 hxs
        cases x with
        | char d =>
          obtain ⟨rfl, htext⟩ := List.cons.inj hs
          obtain ⟨bodies, ys, hfound, rfl, hys⟩ :=
            ih hp hrest (show _ = [] ++ text xs from htext)
          exact ⟨bodies, char c :: ys, hfound, rfl, .keep _ hys⟩
        | tag t =>
          obtain ⟨rfl, htext⟩ := List.cons.inj hs
          have hlabel : ∀ c, c = '*' ∨ c = '_' → c ∉ t.label ++ ['>'] := fun c hc hmem =>
            (label_of_isEmphasis hx).2.2 c hc (List.mem_cons_of_mem _ hmem)
          obtain ⟨bodies, ys, hfound, rfl, hys⟩ := ih hlabel hrest htext
          exact ⟨bodies, tag t :: ys, hfound, rfl, .keep _ hys⟩
  | @stretch m hm body found s t h ih =>
    obtain ⟨hne, hchars, -⟩ := hmarks m hm
    obtain ⟨c, w, hmark⟩ := List.exists_cons_of_ne_nil hne
    have hc : c = '*' ∨ c = '_' := hchars c (hmark ▸ List.mem_cons_self)
    have hpnil : p = [] := by
      cases p with
      | nil => rfl
      | cons d p =>
        rw [hmark] at hs
        obtain ⟨rfl, -⟩ := List.cons.inj hs
        exact absurd List.mem_cons_self (hp c hc)
    subst hpnil
    have htext : text xs = m.text ++ (body ++ (m.text ++ s)) := by
      rw [List.nil_append] at hs
      rw [← hs, List.append_assoc, List.append_assoc]
    obtain ⟨vs, rfl, hvs⟩ := exists_of_text_eq_mark hchars hxs htext
    have hinner := (List.forall_mem_append.1 hxs).2
    obtain ⟨inner, zs, rfl, rfl, hzs⟩ := exists_of_text_eq_append_mark hne hchars hinner hvs
    have hafter := (List.forall_mem_append.1 (List.forall_mem_append.1 hinner).2).2
    obtain ⟨bodies, ys, rfl, rfl, hys⟩ := ih hp hafter hzs.symm
    refine ⟨inner :: bodies, _, rfl, ?_, .stretch hm inner hys⟩
    simp [EmphasisMark.tagged, written, Tag.written, Tag.label]

namespace Markup

/-! ### What a pass keeps -/

/-- The text without stars and low lines. -/
def unmarked (s : List Char) : List Char := s.filter (fun c => c != '*' && c != '_')

theorem unmarked_append (s t : List Char) : unmarked (s ++ t) = unmarked s ++ unmarked t :=
  List.filter_append s t

@[simp] theorem chars_cons_char (c : Char) (xs : List Markup) :
    chars (char c :: xs) = c :: chars xs := rfl

@[simp] theorem chars_cons_tag (t : Tag) (xs : List Markup) : chars (tag t :: xs) = chars xs := rfl

@[simp] theorem chars_append (xs ys : List Markup) : chars (xs ++ ys) = chars xs ++ chars ys :=
  List.filterMap_append

@[simp] theorem chars_map_char (s : List Char) : chars (s.map char) = s := by
  rw [chars, List.filterMap_map]
  exact List.filterMap_some

@[simp] theorem tags_cons_char (c : Char) (xs : List Markup) : tags (char c :: xs) = tags xs := rfl

@[simp] theorem tags_cons_tag (t : Tag) (xs : List Markup) : tags (tag t :: xs) = t :: tags xs :=
  rfl

@[simp] theorem tags_append (xs ys : List Markup) : tags (xs ++ ys) = tags xs ++ tags ys :=
  List.filterMap_append

@[simp] theorem tags_map_char (s : List Char) : tags (s.map char) = [] := by
  induction s with
  | nil => rfl
  | cons c s ih => rw [List.map_cons, tags_cons_char, ih]

theorem isEmphasis_of_mem_map_char {s : List Char} (h : '<' ∉ s) :
    ∀ x ∈ s.map char, IsEmphasis x := by
  intro x hx
  obtain ⟨c, hc, rfl⟩ := List.mem_map.1 hx
  rintro rfl
  exact h hc

namespace Emphasized

variable {found : List (List Markup)}

theorem isEmphasis (hmarks : ∀ m ∈ marks, m.IsPlain) (h : Emphasized marks found xs ys)
    (hxs : ∀ x ∈ xs, IsEmphasis x) : ∀ y ∈ ys, IsEmphasis y := by
  induction h with
  | nil => exact hxs
  | keep x h ih =>
    obtain ⟨hx, hrest⟩ := List.forall_mem_cons.1 hxs
    exact List.forall_mem_cons.2 ⟨hx, ih hrest⟩
  | @stretch m hm body found xs ys h ih =>
    have hname : m.tag ∈ emphasisNames := (hmarks m hm).2.2
    obtain ⟨hbody, hafter⟩ := List.forall_mem_append.1 (List.forall_mem_append.1 hxs).2
    have hys := ih (List.forall_mem_append.1 hafter).2
    exact List.forall_mem_cons.2 ⟨hname, List.forall_mem_append.2 ⟨hbody,
      List.forall_mem_cons.2 ⟨hname, hys⟩⟩⟩

theorem unmarked_chars (hmarks : ∀ m ∈ marks, m.IsPlain) (h : Emphasized marks found xs ys) :
    unmarked (chars ys) = unmarked (chars xs) := by
  induction h with
  | nil => rfl
  | keep x h ih =>
    cases x with
    | char c =>
      rw [chars_cons_char, chars_cons_char, ← List.singleton_append, unmarked_append, ih,
        ← unmarked_append, List.singleton_append]
    | tag t => exact ih
  | @stretch m hm body found xs ys h ih =>
    have hmark : unmarked m.text = [] := by
      refine List.filter_eq_nil_iff.2 fun c hc => ?_
      rcases (hmarks m hm).2.1 c hc with rfl | rfl <;> decide
    simp [unmarked_append, hmark, ih]

/-- A stretch is part of the text. -/
theorem subset_of_mem_found (h : Emphasized marks found xs ys) : ∀ body ∈ found, body ⊆ xs := by
  induction h with
  | nil => exact fun _ hmem => absurd hmem List.not_mem_nil
  | keep x h ih => exact fun body hmem => List.subset_cons_of_subset x (ih body hmem)
  | @stretch m hm inner found xs ys h ih =>
    intro body hmem y hy
    rcases List.mem_cons.1 hmem with rfl | hmem
    · simp [hy]
    · simp [ih body hmem hy]

theorem count_tags (h : Emphasized marks found xs ys) (name : List Char) :
    (tags ys).count (.opening name) + (tags xs).count (.closing name) =
      (tags ys).count (.closing name) + (tags xs).count (.opening name) := by
  induction h with
  | nil => rfl
  | keep x h ih =>
    cases x with
    | char c => exact ih
    | tag t =>
      simp only [tags_cons_tag, List.count_cons]
      omega
  | @stretch m hm body found xs ys h ih =>
    simp only [tags_append, tags_map_char, tags_cons_tag, List.nil_append, List.count_cons,
      List.count_append]
    by_cases hname : m.tag = name <;> simp [hname] <;> omega

end Emphasized

end Markup

/-! ### All passes -/

open Markup

theorem isPlain_of_mem_marks : (∀ m ∈ strongMarks, m.IsPlain) ∧ (∀ m ∈ [starMark], m.IsPlain) ∧
    ∀ m ∈ [lowLineMark], m.IsPlain := by
  simp [EmphasisMark.IsPlain, strongMarks, starMark, lowLineMark, emphasisNames]

theorem exists_tagStretches_text (hmarks : ∀ m ∈ marks, m.IsPlain) {xs : List Markup}
    (hxs : ∀ x ∈ xs, IsEmphasis x) :
    ∃ bodies ys, tagStretches marks none [] (text xs) = text ys ∧
      stretches marks none (text xs) = bodies.map text ∧ Emphasized marks bodies xs ys ∧
      ∀ y ∈ ys, IsEmphasis y := by
  obtain ⟨t, ht, htagged⟩ := exists_tagStretches_eq marks none [] (text xs)
  obtain ⟨bodies, ys, hfound, rfl, hys⟩ := htagged.exists_emphasized hmarks
    (fun _ _ => List.not_mem_nil) hxs (show text xs = [] ++ text xs from rfl)
  exact ⟨bodies, ys, ht, hfound, hys, hys.isEmphasis hmarks hxs⟩

def strongStretches (s : List Char) : List (List Char) := stretches strongMarks none s

/-- The stretches between stars, which may hold tags for strong text. -/
def starStretches (s : List Char) : List (List Char) :=
  stretches [starMark] none (tagStretches strongMarks none [] s)

/-- The stretches between low lines, which may hold the tags of both passes before. -/
def lowLineStretches (s : List Char) : List (List Char) :=
  stretches [lowLineMark] none
    (tagStretches [starMark] none [] (tagStretches strongMarks none [] s))

/-- What the three passes make of a text, and what they find. -/
structure Passes (s : List Char) where
  strong : List Markup
  stars : List Markup
  all : List Markup
  strongBodies : List (List Markup)
  starBodies : List (List Markup)
  lowLineBodies : List (List Markup)
  strong_eq : Emphasized strongMarks strongBodies (s.map char) strong
  stars_eq : Emphasized [starMark] starBodies strong stars
  all_eq : Emphasized [lowLineMark] lowLineBodies stars all
  strongStretches_eq : strongStretches s = strongBodies.map text
  starStretches_eq : starStretches s = starBodies.map text
  lowLineStretches_eq : lowLineStretches s = lowLineBodies.map text
  isEmphasis_strong : ∀ x ∈ strong, IsEmphasis x
  isEmphasis_stars : ∀ x ∈ stars, IsEmphasis x
  isEmphasis_all : ∀ x ∈ all, IsEmphasis x
  emphasize_eq : emphasize s = text all

/-- The text with tags that comes out is made in three passes. -/
theorem exists_passes (h : '<' ∉ s) : Nonempty (Passes s) := by
  obtain ⟨hstrong, hstar, hlowLine⟩ := isPlain_of_mem_marks
  obtain ⟨strongBodies, xs, hxs, hstrongFound, hstrongs, hplain⟩ :=
    exists_tagStretches_text hstrong (isEmphasis_of_mem_map_char h)
  obtain ⟨starBodies, ys, hys, hstarFound, hstars, hplain'⟩ := exists_tagStretches_text hstar hplain
  obtain ⟨lowLineBodies, zs, hzs, hlowLineFound, hlowLines, hplain''⟩ :=
    exists_tagStretches_text hlowLine hplain'
  rw [text_map_char] at hxs hstrongFound
  refine ⟨⟨xs, ys, zs, strongBodies, starBodies, lowLineBodies, hstrongs, hstars, hlowLines,
    hstrongFound, ?_, ?_, hplain, hplain', hplain'', ?_⟩⟩
  · rw [starStretches, hxs, hstarFound]
  · rw [lowLineStretches, hxs, hys, hlowLineFound]
  · rw [emphasize, hxs, hys, hzs]

/-- **Emphasis only replaces marks.**  Without the tags, and without stars and low lines, the text
is what it was before; and the tags are whole ones for strong and stressed text, as many that open
as that close. -/
theorem emphasize_keeps_unmarked (s : List Char) (h : '<' ∉ s) :
    unmarked (stripTags (emphasize s)) = unmarked s ∧ '<' ∉ stripTags (emphasize s) ∧
      (∀ t ∈ tagsIn (emphasize s), t.name ∈ emphasisNames) ∧
      ∀ name, (tagsIn (emphasize s)).count (.opening name) =
        (tagsIn (emphasize s)).count (.closing name) := by
  obtain ⟨p⟩ := exists_passes h
  obtain ⟨hmarks, hstar, hlowLine⟩ := isPlain_of_mem_marks
  rw [p.emphasize_eq, stripTags_text p.isEmphasis_all, tagsIn_text p.isEmphasis_all]
  refine ⟨?_, not_mem_chars p.isEmphasis_all, name_of_mem_tags p.isEmphasis_all, fun name => ?_⟩
  · rw [p.all_eq.unmarked_chars hlowLine, p.stars_eq.unmarked_chars hstar,
      p.strong_eq.unmarked_chars hmarks, chars_map_char]
  · have h1 := p.strong_eq.count_tags name
    have h2 := p.stars_eq.count_tags name
    have h3 := p.all_eq.count_tags name
    rw [tags_map_char, List.count_nil, List.count_nil] at h1
    omega

theorem emphasize_keeps_unmarked_threeStars :
    '<' ∉ "2 > 1, ***so*** _it_ *is".toList ∧
      unmarked (stripTags (emphasize "2 > 1, ***so*** _it_ *is".toList)) =
        "2 > 1, so it is".toList ∧
      (tagsIn (emphasize "2 > 1, ***so*** _it_ *is".toList)).count (.opening "em".toList) =
        (tagsIn (emphasize "2 > 1, ***so*** _it_ *is".toList)).count (.closing "em".toList) := by
  have hno : '<' ∉ "2 > 1, ***so*** _it_ *is".toList := by decide
  obtain ⟨hkept, -, -, hcount⟩ := emphasize_keeps_unmarked _ hno
  exact ⟨hno, hkept.trans (by decide), hcount _⟩

end SiteTemplates.Text
