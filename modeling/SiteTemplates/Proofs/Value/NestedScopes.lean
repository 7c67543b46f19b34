import SiteTemplates.Proofs.Value.Entries

/-!
# Scopes of loops inside one another

Each loop lays the entries of its item over the scope around it, and the item itself as `this` over
both.  So a name is looked for from the inside to the outside, among the items that are maps and
then in the scope around all loops (`lookup?_loopScope` is one loop, `lookup?_nestedScope_of_none`
those that do not hold the name).  The first map that holds the name has the last word, also if it
holds nothing under it; from what it holds the rest of the path is walked
(`nestedScope_finds_innermost`).
-/

namespace SiteTemplates

open Text

namespace Value

variable {name path : String} {outer scope : List (Value × Value)} {item value : Value}
  {items before after : List Value}

/-- The names of a path behind its first one. -/
def laterNames (path : String) : List (List Char) := (splitAll '.' path.toList).tail

/-- What an item holds under a name, if it is a map. -/
def held? (name : String) : Value → Option Value
  | map entries => lookup? name entries
  | _ => none

/-- The scope inside loops, of whose items the outermost comes first. -/
def nestedScope (outer : List (Value × Value)) (items : List Value) : List (Value × Value) :=
  items.foldl loopScope outer

theorem nestedScope_append : nestedScope outer (before ++ item :: after) =
    nestedScope (loopScope (nestedScope outer before) item) after := by
  rw [nestedScope, List.foldl_append, List.foldl_cons]
  rfl

/-! ### Walking on -/

theorem splitAll_path (path : String) :
    splitAll '.' path.toList = (firstName path).toList :: laterNames path := by
  obtain ⟨rest, hsplit⟩ := exists_splitAll_eq '.' path.toList
  rw [laterNames, firstName, hsplit, String.toList_ofList, List.tail_cons]

theorem walk?_null (names : List (List Char)) : walk? null names = some null := by
  induction names with
  | nil => rfl
  | cons name rest ih => exact ih

/-- The first name of a path is looked up in the scope, and the others are walked from there. -/
theorem resolve?_eq_walk? (path : String) (scope : List (Value × Value)) :
    resolve? path scope =
      walk? ((lookup? (firstName path) scope).getD null) (laterNames path) := by
  rw [resolve?, splitAll_path, walk?, step?, String.ofList_toList]
  rfl

/-! ### Looking up -/

/-- In the body of a loop the item is found as `this`, and a name is looked for in the item before
it is looked for around the loop. -/
theorem lookup?_loopScope (hd : ∀ entries, item = map entries → Distinct entries) :
    lookup? name (loopScope scope item) =
      if name = "this" then some item else (held? name item).or (lookup? name scope) := by
  unfold loopScope
  rw [lookup?_put]
  by_cases hthis : name = "this"
  · have htext : (text "this").isText name = true := isText_iff.2 (congrArg text hthis.symm)
    rw [if_pos htext, if_pos hthis]
  · have htext : ¬ (text "this").isText name = true := fun h =>
      hthis (Value.text.inj (isText_iff.1 h)).symm
    rw [if_neg htext, if_neg hthis]
    cases item with
    | map entries => exact lookup?_overlay (hd entries rfl)
    | _ => rfl

/-- Loops whose items do not hold a name do not come between it and what is around them. -/
theorem lookup?_nestedScope_of_none (hthis : name ≠ "this")
    (hd : ∀ entries, map entries ∈ items → Distinct entries)
    (h : ∀ item ∈ items, held? name item = none) :
    lookup? name (nestedScope scope items) = lookup? name scope := by
  induction items generalizing scope with
  | nil => rfl
  | cons item items ih =>
    obtain ⟨hitem, hitems⟩ := List.forall_mem_cons.1 h
    have hdistinct : ∀ entries, item = map entries → Distinct entries := by
      rintro entries rfl
      exact hd entries List.mem_cons_self
    have hrest : lookup? name (nestedScope (loopScope scope item) items) =
        lookup? name (loopScope scope item) :=
      ih (fun entries hmem => hd entries (List.mem_cons_of_mem item hmem)) hitems
    show lookup? name (nestedScope (loopScope scope item) items) = _
    rw [hrest, lookup?_loopScope hdistinct, if_neg hthis, hitem, Option.none_or]

/-- What is found under a name is what the innermost item that holds it holds. -/
theorem lookup?_nestedScope_of_held (hthis : name ≠ "this")
    (hd : ∀ entries, map entries ∈ before ++ item :: after → Distinct entries)
    (hheld : held? name item = some value) (h : ∀ later ∈ after, held? name later = none) :
    lookup? name (nestedScope outer (before ++ item :: after)) = some value := by
  have hdistinct : ∀ entries, item = map entries → Distinct entries := by
    rintro entries rfl
    exact hd entries (List.mem_append_right before List.mem_cons_self)
  have hafter : ∀ entries, map entries ∈ after → Distinct entries := fun entries hmem =>
    hd entries (List.mem_append_right before (List.mem_cons_of_mem item hmem))
  rw [nestedScope_append, lookup?_nestedScope_of_none hthis hafter h,
    lookup?_loopScope hdistinct, if_neg hthis, hheld, Option.some_or]

/-- **Inside nested loops the innermost item has the last word.**  A path that begins with `this` is
walked from the innermost item.  Any other path is walked from what the innermost map with its first
name holds under that name, which finds nothing if that is nothing; and only if no item holds the
name, it finds what it finds around all loops. -/
theorem nestedScope_finds_innermost (outer : List (Value × Value)) (items : List Value)
    (hd : ∀ entries, map entries ∈ items → Distinct entries) (path : String) :
    let name := firstName path
    let found := resolve? path (nestedScope outer items)
    (name = "this" → ∀ before item, items = before ++ [item] →
      found = walk? item (laterNames path)) ∧
    (name ≠ "this" → ∀ before item after value, items = before ++ item :: after →
      held? name item = some value → (∀ later ∈ after, held? name later = none) →
      found = walk? value (laterNames path) ∧ (value = null → found = some null)) ∧
    (name ≠ "this" → (∀ item ∈ items, held? name item = none) → found = resolve? path outer) := by
  intro name found
  have hfound : found = walk? ((lookup? name (nestedScope outer items)).getD null)
      (laterNames path) := resolve?_eq_walk? path _
  refine ⟨fun hthis before item hitems => ?_,
    fun hthis before item after value hitems hheld hafter => ?_, fun hthis hnone => ?_⟩
  · have hdistinct : ∀ entries, item = map entries → Distinct entries := by
      rintro entries rfl
      exact hd entries (hitems ▸ List.mem_append_right before List.mem_cons_self)
    have hlookup : lookup? name (nestedScope outer items) = some item := by
      rw [hitems, nestedScope_append]
      show lookup? name (loopScope _ item) = _
      rw [lookup?_loopScope hdistinct, if_pos hthis]
    rw [hfound, hlookup, Option.getD_some]
  · have hlookup : lookup? name (nestedScope outer items) = some value := by
      subst hitems
      exact lookup?_nestedScope_of_held hthis hd hheld hafter
    rw [hfound, hlookup, Option.getD_some]
    refine ⟨rfl, fun hvalue => ?_⟩
    rw [hvalue, walk?_null]
  · rw [hfound, lookup?_nestedScope_of_none hthis hd hnone, ← resolve?_eq_walk?]

/-- An item with an entry of its own for `this`, one that holds nothing under `k`, and a text. -/
def threeItems : List Value :=
  [map [(text "k", map [(text "a", int 1)]), (text "this", int 2)],
    map [(text "k", null)],
    text "x"]

theorem nestedScope_finds_innermost_threeItems :
    let outer := [(text "k", int 3), (text "y", map [(text "a", int 4)])]
    (∀ entries, map entries ∈ threeItems → Distinct entries) ∧
      resolve? "this" (nestedScope outer threeItems) = some (text "x") ∧
      resolve? "k.a" (nestedScope outer threeItems) = some null ∧
      resolve? "y.a" (nestedScope outer threeItems) = some (int 4) := by
  intro outer
  have hd : ∀ entries, map entries ∈ threeItems → Distinct entries := by
    intro entries hmem
    simp only [threeItems, List.mem_cons, map.injEq, reduceCtorEq, List.not_mem_nil, or_false]
      at hmem
    rcases hmem with rfl | rfl
    · refine List.pairwise_cons.2 ⟨fun e he => ?_, List.pairwise_singleton _ _⟩
      rw [List.mem_singleton.1 he, text_same]
      decide
    · exact List.pairwise_singleton _ _
  obtain ⟨hthis, -, -⟩ := nestedScope_finds_innermost outer threeItems hd "this"
  obtain ⟨-, hheld, -⟩ := nestedScope_finds_innermost outer threeItems hd "k.a"
  obtain ⟨-, -, hnone⟩ := nestedScope_finds_innermost outer threeItems hd "y.a"
  refine ⟨hd, hthis (by decide) (threeItems.take 2) (text "x") rfl, ?_, ?_⟩
  · have hk : firstName "k.a" = "k" := by decide
    rw [hk] at hheld
    have hlater : ∀ later ∈ [text "x"], held? "k" later = none := by
      intro later hlater
      obtain rfl := List.mem_singleton.1 hlater
      rfl
    exact (hheld (by decide) [_] _ [text "x"] null rfl rfl hlater).2 rfl
  · have hy : firstName "y.a" = "y" := by decide
    rw [hy] at hnone
    refine (hnone (by decide) ?_).trans rfl
    intro item hitem
    simp only [threeItems, List.mem_cons, List.not_mem_nil, or_false] at hitem
    rcases hitem with rfl | rfl | rfl <;> rfl

end Value

end SiteTemplates
