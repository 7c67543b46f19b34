import SiteTemplates.Proofs.Lists
import SiteTemplates.Proofs.Value.Entries
import SiteTemplates.Proofs.Value.Parts
import SiteTemplates.Value.Closed

/-!
# The closed form of a value

`Value.close?` folds a value into the closed model, `IsClosed`: nothing, truth values, numbers,
texts, dates, lists, and maps under texts of which each comes once.  Whatever it gives is closed
(`isClosed_of_close?`), and it leaves a closed value as it is (`close?_of_isClosed`).  So the second
time changes nothing.

The keys are the delicate part.  Writing an entry under a text keeps the texts of a map apart
(`Labelled.put`), so entries under the texts of any keys make a map of the closed model, with fewer
entries where two keys have one text.  Entries that are under different texts already stay in their
order (`keyedByText?_of_labelled`).
-/

namespace SiteTemplates

namespace Value

variable {es new : List (Value × Value)} {key value v w : Value} {now : Moment}

/-! ### Entries -/

/-- Entries under texts, of which each comes once. -/
structure Labelled (es : List (Value × Value)) : Prop where
  texts : ∀ e ∈ es, ∃ s, e.1 = text s
  nodup : (es.map Prod.fst).Nodup

theorem same_text_iff {s : String} : v.same (text s) = true ↔ v = text s := by
  rw [same_text, isText_iff]

theorem map_fst_put_of_mem {s : String} (h : text s ∈ es.map Prod.fst) :
    (put (text s) value es).map Prod.fst = es.map Prod.fst := by
  induction es with
  | nil => cases h
  | cons e rest ih =>
    rw [put]
    split
    · rfl
    · rename_i hne
      rcases List.mem_cons.1 h with he | h
      · exact absurd (same_text_iff.2 he.symm) hne
      · rw [List.map_cons, ih h, List.map_cons]

theorem put_of_not_mem {s : String} (h : text s ∉ es.map Prod.fst) :
    put (text s) value es = es ++ [(text s, value)] := by
  refine put_of_fresh fun e he => Bool.eq_false_iff.2 fun hsame => h ?_
  rw [← same_text_iff.1 hsame]
  exact List.mem_map_of_mem he

theorem Labelled.put (h : Labelled es) (s : String) (value : Value) :
    Labelled (put (text s) value es) := by
  refine ⟨?_, ?_⟩
  · intro e he
    rcases (mem_put he).1 with hkey | ⟨d, hd, hkey⟩
    · exact ⟨s, hkey⟩
    · rw [← hkey]
      exact h.texts d hd
  by_cases hm : text s ∈ es.map Prod.fst
  · rw [map_fst_put_of_mem hm]
    exact h.nodup
  · rw [put_of_not_mem hm, List.map_append, List.nodup_append]
    refine ⟨h.nodup, List.pairwise_singleton _ _, ?_⟩
    intro a ha b hb
    obtain rfl := List.mem_singleton.1 hb
    rintro rfl
    exact hm ha

theorem Labelled.overlay (h : Labelled es) (hnew : ∀ e ∈ new, ∃ s, e.1 = text s) :
    Labelled (overlay es new) := by
  induction new generalizing es with
  | nil => exact h
  | cons e rest ih =>
    obtain ⟨s, hs⟩ := hnew e List.mem_cons_self
    have hput : Labelled (Value.put e.1 e.2 es) := by
      rw [hs]
      exact h.put s e.2
    exact ih hput (fun d hd => hnew d (List.mem_cons_of_mem e hd))

theorem labelled_nil : Labelled [] := ⟨nofun, List.nodup_nil⟩

theorem Labelled.distinct (h : Labelled es) : Distinct es := by
  refine (List.pairwise_map.1 h.nodup).imp_of_mem fun {d e} _ he hne => ?_
  obtain ⟨s, hs⟩ := h.texts e he
  rw [hs] at hne ⊢
  exact Bool.eq_false_iff.2 fun hsame => hne (same_text_iff.1 hsame)

/-! ### Entries under the texts of their keys -/

theorem keyedByText?_eq_some_iff {es' : List (Value × Value)} : keyedByText? es = some es' ↔
    ∃ ts, List.Forall₂ (fun e t : Value × Value =>
      e.1.plain?.map (fun s => (text (String.ofList s), e.2)) = some t) es ts ∧
        entriesOf ts = es' := by
  rw [keyedByText?, Option.map_eq_some_iff]
  simp only [mapM_eq_some_iff]

theorem exists_keyedByText?_of_plain? (h : ∀ e ∈ es, ∃ s, e.1.plain? = some s) :
    ∃ es', keyedByText? es = some es' := by
  have htexts : ∀ e ∈ es, ∃ t : Value × Value,
      e.1.plain?.map (fun s => (text (String.ofList s), e.2)) = some t := by
    intro e he
    obtain ⟨s, hs⟩ := h e he
    exact ⟨_, by rw [hs]; rfl⟩
  obtain ⟨ts, hts⟩ := exists_forall₂ htexts
  exact ⟨_, keyedByText?_eq_some_iff.2 ⟨ts, hts, rfl⟩⟩

theorem labelled_of_keyedByText? {es' : List (Value × Value)} (h : keyedByText? es = some es') :
    Labelled es' ∧ ∀ e ∈ es', ∃ d ∈ es, d.2 = e.2 := by
  obtain ⟨ts, hts, rfl⟩ := keyedByText?_eq_some_iff.1 h
  have hentries : ∀ t ∈ ts, (∃ s, t.1 = text s) ∧ ∃ d ∈ es, d.2 = t.2 := by
    intro t ht
    obtain ⟨e, he, het⟩ := exists_of_forall₂ hts.flip ht
    obtain ⟨s, -, rfl⟩ := Option.map_eq_some_iff.1 het
    exact ⟨⟨_, rfl⟩, e, he, rfl⟩
  refine ⟨labelled_nil.overlay (fun t ht => (hentries t ht).1), ?_⟩
  intro e he
  obtain ⟨-, t, ht, hvalue⟩ := mem_overlay he
  rw [← hvalue]
  exact (hentries t ht).2

theorem keyedByText?_of_labelled (h : Labelled es) : keyedByText? es = some es := by
  refine keyedByText?_eq_some_iff.2 ⟨es, List.forall₂_same.2 ?_, overlay_of_distinct h.distinct⟩
  intro e he
  obtain ⟨s, hs⟩ := h.texts e he
  obtain ⟨k, v⟩ := e
  subst hs
  simp [plain?]

/-! ### Closed values -/

inductive IsClosed : Value → Prop
  | null : IsClosed .null
  | bool (b : Bool) : IsClosed (.bool b)
  | int (n : Int) : IsClosed (.int n)
  | real (x : Binary) : IsClosed (.real x)
  | text (s : String) : IsClosed (.text s)
  | date (d : Date) : IsClosed (.date d)
  | moment (m : Moment) : IsClosed (.moment m)
  | list {items : List Value} (h : ∀ v ∈ items, IsClosed v) : IsClosed (.list items)
  | map {entries : List (Value × Value)} (keys : Labelled entries)
      (h : ∀ e ∈ entries, IsClosed e.2) : IsClosed (.map entries)

theorem isClosed_texts (ss : List String) : IsClosed (.list (ss.map Value.text)) := by
  refine .list (fun v hv => ?_)
  obtain ⟨s, -, rfl⟩ := List.mem_map.1 hv
  exact .text s

theorem isClosed_map_of_keyedByText? {es' : List (Value × Value)} (h : keyedByText? es = some es')
    (hv : ∀ e ∈ es, e.2.IsClosed) : IsClosed (.map es') := by
  obtain ⟨hlabelled, hvalues⟩ := labelled_of_keyedByText? h
  refine .map hlabelled (fun e he => ?_)
  obtain ⟨d, hd, hvalue⟩ := hvalues e he
  rw [← hvalue]
  exact hv d hd

/-- A record shows itself under texts, by closed values beside its front matter. -/
theorem cases_of_mem_fields {r : Record} {frontMatter : Value} {e : Value × Value}
    (he : e ∈ r.fields now frontMatter) :
    (∃ s, e.1 = text s) ∧ (e.2 = frontMatter ∨ e.2.IsClosed) := by
  rcases List.mem_append.1 he with he | he
  · simp only [Record.pageFields, List.mem_cons, List.not_mem_nil, or_false] at he
    rcases he with rfl | rfl | rfl | rfl | rfl | rfl | rfl | rfl | rfl
    · exact ⟨⟨_, rfl⟩, .inr (.text _)⟩
    · exact ⟨⟨_, rfl⟩, .inr (.text _)⟩
    · exact ⟨⟨_, rfl⟩, .inr (.text _)⟩
    · exact ⟨⟨_, rfl⟩, .inr (.text _)⟩
    · exact ⟨⟨_, rfl⟩, .inl rfl⟩
    · exact ⟨⟨_, rfl⟩, .inr (.text _)⟩
    · exact ⟨⟨_, rfl⟩, .inr (.text _)⟩
    · exact ⟨⟨_, rfl⟩, .inr (.moment _)⟩
    · exact ⟨⟨_, rfl⟩, .inr (.bool _)⟩
  · unfold Record.postFields at he
    split at he
    · cases he
    · rename_i p _
      simp only [List.mem_cons, List.not_mem_nil, or_false] at he
      rcases he with rfl | rfl | rfl | rfl | rfl
      · exact ⟨⟨_, rfl⟩, .inr (.moment _)⟩
      · exact ⟨⟨_, rfl⟩, .inr (.moment _)⟩
      · exact ⟨⟨_, rfl⟩, .inr (isClosed_texts p.categories)⟩
      · exact ⟨⟨_, rfl⟩, .inr (isClosed_texts p.tags)⟩
      · exact ⟨⟨_, rfl⟩, .inr (.text _)⟩

theorem isClosed_template (name source : String) :
    IsClosed (.map [(.text "name", .text name), (.text "source", .text source)]) := by
  refine .map ⟨?_, by simp⟩ ?_
  · intro e he
    rcases List.mem_cons.1 he with rfl | he
    · exact ⟨_, rfl⟩
    · obtain rfl := List.mem_singleton.1 he
      exact ⟨_, rfl⟩
  · intro e he
    rcases List.mem_cons.1 he with rfl | he
    · exact .text _
    · obtain rfl := List.mem_singleton.1 he
      exact .text _

/-! ### What closing gives -/

theorem closeAll?_eq_some_iff {vs ws : List Value} : closeAll? now vs = some ws ↔
    List.Forall₂ (fun v w => close? now v = some w) vs ws := by
  induction vs generalizing ws with
  | nil =>
    rw [closeAll?, List.forall₂_nil_left_iff, Option.some.injEq]
    exact eq_comm
  | cons v rest ih =>
    rw [closeAll?, List.forall₂_cons_left_iff]
    constructor
    · intro h
      split at h
      · rename_i u us hv hrest
        cases h
        exact ⟨u, us, hv, ih.1 hrest, rfl⟩
      · cases h
    · rintro ⟨u, us, hv, hrest, rfl⟩
      rw [hv, ih.2 hrest]

theorem closeValues?_eq_some_iff {es' : List (Value × Value)} : closeValues? now es = some es' ↔
    List.Forall₂ (fun e e' => e'.1 = e.1 ∧ close? now e.2 = some e'.2) es es' := by
  induction es generalizing es' with
  | nil =>
    rw [closeValues?, List.forall₂_nil_left_iff, Option.some.injEq]
    exact eq_comm
  | cons e rest ih =>
    obtain ⟨k, v⟩ := e
    rw [closeValues?, List.forall₂_cons_left_iff]
    constructor
    · intro h
      split at h
      · rename_i u us hv hrest
        cases h
        exact ⟨(k, u), us, ⟨rfl, hv⟩, ih.1 hrest, rfl⟩
      · cases h
    · rintro ⟨⟨k', u⟩, us, ⟨rfl, hv⟩, hrest, rfl⟩
      rw [hv, ih.2 hrest]

theorem mem_of_mem_sortedBy {texts : List String} {vs : List Value} (h : v ∈ sortedBy texts vs) :
    v ∈ vs := by
  obtain ⟨p, hp, rfl⟩ := List.mem_map.1 h
  exact (List.of_mem_zip (List.mem_mergeSort.1 hp)).2

/-- The closed form of a value is a value of the closed model. -/
theorem isClosed_of_close? (h : close? now v = some w) : w.IsClosed := by
  induction v using induction_on_parts generalizing w with
  | _ v ih =>
  have hentries : ∀ es es' : List (Value × Value),
      (∀ u ∈ es.flatMap (fun e => [e.1, e.2]), ∀ {w}, close? now u = some w → w.IsClosed) →
      closeValues? now es = some es' → ∀ e ∈ es', e.2.IsClosed := by
    intro es es' hes hclose e' he'
    obtain ⟨e, he, -, hv⟩ := exists_of_forall₂ (closeValues?_eq_some_iff.1 hclose).flip he'
    exact hes e.2 (value_mem_parts he) hv
  have hitems : ∀ vs ws : List Value,
      (∀ u ∈ vs, ∀ {w}, close? now u = some w → w.IsClosed) →
      closeAll? now vs = some ws → ∀ w ∈ ws, w.IsClosed := by
    intro vs ws hvs hclose w hw
    obtain ⟨u, hu, huw⟩ := exists_of_forall₂ (closeAll?_eq_some_iff.1 hclose).flip hw
    exact hvs u hu huw
  cases v with
  | bytes bs =>
    rw [close?] at h
    obtain ⟨s, -, rfl⟩ := Option.map_eq_some_iff.1 h
    exact .text _
  | list items =>
    rw [close?] at h
    obtain ⟨ws, hws, rfl⟩ := Option.map_eq_some_iff.1 h
    exact .list (hitems items ws ih hws)
  | tuple items =>
    rw [close?] at h
    obtain ⟨ws, hws, rfl⟩ := Option.map_eq_some_iff.1 h
    exact .list (hitems items ws ih hws)
  | set items =>
    rw [close?] at h
    split at h
    · rename_i texts ws _ hws
      cases h
      exact .list (fun u hu => hitems items ws ih hws u (mem_of_mem_sortedBy hu))
    · cases h
  | map entries =>
    rw [close?] at h
    obtain ⟨es, hes, h⟩ := Option.bind_eq_some_iff.1 h
    obtain ⟨es', hes', rfl⟩ := Option.map_eq_some_iff.1 h
    exact isClosed_map_of_keyedByText? hes' (hentries entries es ih hes)
  | record header frontMatter =>
    rw [close?] at h
    obtain ⟨es, hes, h⟩ := Option.bind_eq_some_iff.1 h
    obtain ⟨shown, hshown, h⟩ := Option.bind_eq_some_iff.1 h
    obtain ⟨es', hes', rfl⟩ := Option.map_eq_some_iff.1 h
    have hvalues := hentries frontMatter es ih hes
    have hshown := isClosed_map_of_keyedByText? hshown hvalues
    have hfields : ∀ e ∈ Record.fields now ⟨header, frontMatter⟩ (.map shown), e.2.IsClosed := by
      intro e he
      rcases (cases_of_mem_fields he).2 with hfront | hclosed
      · rw [hfront]
        exact hshown
      · exact hclosed
    refine isClosed_map_of_keyedByText? hes' (fun e he => ?_)
    obtain ⟨-, d, hd, hvalue⟩ := mem_overlay he
    rw [← hvalue]
    rcases List.mem_append.1 hd with hd | hd
    · exact hvalues d hd
    · exact hfields d hd
  | template name source =>
    rw [close?] at h
    cases h
    exact isClosed_template name source
  | _ =>
    simp only [close?, Option.some.injEq] at h
    subst h
    constructor

/-- A value of the closed model is its own closed form. -/
theorem close?_of_isClosed (h : w.IsClosed) (now : Moment) : close? now w = some w := by
  induction h with
  | @list items _ ih =>
    have hitems : closeAll? now items = some items :=
      closeAll?_eq_some_iff.2 (List.forall₂_same.2 ih)
    rw [close?, hitems]
    rfl
  | @map entries keys _ ih =>
    have hvalues : closeValues? now entries = some entries :=
      closeValues?_eq_some_iff.2 (List.forall₂_same.2 (fun e he => ⟨rfl, ih e he⟩))
    rw [close?, hvalues, Option.bind_some, keyedByText?_of_labelled keys]
    rfl
  | _ => simp only [close?]

/-- A value in which no integer has too many digits has a closed form. -/
theorem exists_close?_of_short (now : Moment) (h : v.shortIntegers = true) :
    ∃ w, close? now v = some w := by
  induction v using induction_on_parts with
  | _ v ih =>
  have hentries : ∀ es : List (Value × Value),
      (∀ u ∈ es.flatMap (fun e => [e.1, e.2]), u.shortIntegers = true →
        ∃ w, close? now u = some w) →
      shortIntegersEntries es = true → ∃ es', closeValues? now es = some es' ∧
        ∀ e ∈ es', ∃ s, e.1.plain? = some s := by
    intro es hes hshort
    have hclose : ∀ e ∈ es, ∃ e' : Value × Value, e'.1 = e.1 ∧ close? now e.2 = some e'.2 := by
      intro e he
      obtain ⟨w, hw⟩ := hes e.2 (value_mem_parts he) (shortIntegersEntries_iff.1 hshort e he).2
      exact ⟨(e.1, w), rfl, hw⟩
    obtain ⟨es', hes'⟩ := exists_forall₂ hclose
    refine ⟨es', closeValues?_eq_some_iff.2 hes', ?_⟩
    intro e' he'
    obtain ⟨e, he, hkey, -⟩ := exists_of_forall₂ hes'.flip he'
    rw [hkey]
    exact exists_plain?_of_short (shortIntegersEntries_iff.1 hshort e he).1
  have hitems : ∀ vs : List Value,
      (∀ u ∈ vs, u.shortIntegers = true → ∃ w, close? now u = some w) →
      shortIntegersAll vs = true → ∃ ws, closeAll? now vs = some ws := by
    intro vs hvs hshort
    obtain ⟨ws, hws⟩ := exists_forall₂ (fun u hu => hvs u hu (shortIntegersAll_iff.1 hshort u hu))
    exact ⟨ws, closeAll?_eq_some_iff.2 hws⟩
  cases v with
  | bytes bs => exact ⟨_, by rw [close?]; rfl⟩
  | list items =>
    obtain ⟨ws, hws⟩ := hitems items ih h
    exact ⟨_, by rw [close?, hws]; rfl⟩
  | tuple items =>
    obtain ⟨ws, hws⟩ := hitems items ih h
    exact ⟨_, by rw [close?, hws]; rfl⟩
  | set items =>
    obtain ⟨ws, hws⟩ := hitems items ih h
    obtain ⟨texts, htexts⟩ := exists_forall₂
      (fun u hu => exists_plain?_of_short (shortIntegersAll_iff.1 h u hu))
    exact ⟨_, by rw [close?, mapM_eq_some_iff.2 htexts, hws]⟩
  | map entries =>
    obtain ⟨es, hes, hkeys⟩ := hentries entries ih h
    obtain ⟨es', hes'⟩ := exists_keyedByText?_of_plain? hkeys
    exact ⟨_, by rw [close?, hes, Option.bind_some, hes']; rfl⟩
  | record header frontMatter =>
    obtain ⟨es, hes, hkeys⟩ := hentries frontMatter ih h
    obtain ⟨shown, hshown⟩ := exists_keyedByText?_of_plain? hkeys
    have hall : ∀ e ∈ overlay es (Record.fields now ⟨header, frontMatter⟩ (.map shown)),
        ∃ s, e.1.plain? = some s := by
      intro e he
      obtain ⟨⟨d, hd, hkey⟩, -⟩ := mem_overlay he
      rw [← hkey]
      rcases List.mem_append.1 hd with hd | hd
      · exact hkeys d hd
      · obtain ⟨s, hs⟩ := (cases_of_mem_fields hd).1
        exact ⟨_, by rw [hs]; rfl⟩
    obtain ⟨es', hes'⟩ := exists_keyedByText?_of_plain? hall
    exact ⟨_, by rw [close?, hes, Option.bind_some, hshown, Option.bind_some, hes']; rfl⟩
  | _ => exact ⟨_, by simp only [close?]; rfl⟩

/-- **Closing lands in the closed model, and a second time changes nothing.**  A value in which no
integer has too many digits has a closed form, a value of the closed model, and at any time that is
its own closed form, with its entries in their order. -/
theorem exists_closed_form (now : Moment) {v : Value} (h : v.shortIntegers = true) :
    ∃ w, close? now v = some w ∧ w.IsClosed ∧ ∀ now', close? now' w = some w := by
  obtain ⟨w, hw⟩ := exists_close?_of_short now h
  have hclosed := isClosed_of_close? hw
  exact ⟨w, hw, hclosed, close?_of_isClosed hclosed⟩

/-- A map with two keys of one text, the second of which holds a tuple with bytes. -/
def oneTwice : Value :=
  .map [(.int 1, .null), (.text "s", .text ""), (.text "1", .tuple [.int 9, .bytes [104, 105]])]

/-- The entry that comes last for a text takes the place of the first one. -/
theorem exists_closed_form_oneTwice :
    oneTwice.shortIntegers = true ∧
      ∃ w, close? (.ofDate ⟨2024, 1, 1, by decide⟩) oneTwice = some w ∧ w.IsClosed ∧
        (∀ now', close? now' w = some w) ∧
        w.spelled? = some "\x7b'1': [9, \"b'hi'\"], 's': ''\x7d".toList := by
  have hshort : oneTwice.shortIntegers = true := by decide +kernel
  obtain ⟨w, hw, hclosed, hfixed⟩ :=
    exists_closed_form (.ofDate ⟨2024, 1, 1, by decide⟩) hshort
  have htext : (close? (.ofDate ⟨2024, 1, 1, by decide⟩) oneTwice).bind spelled? =
      some "\x7b'1': [9, \"b'hi'\"], 's': ''\x7d".toList := by decide +kernel
  rw [hw, Option.bind_some] at htext
  exact ⟨hshort, w, hw, hclosed, hfixed, htext⟩

end Value

end SiteTemplates
