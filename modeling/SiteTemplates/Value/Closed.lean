import SiteTemplates.Content.Record
import SiteTemplates.Value.Text

/-!
# Closed values

Rendering knows values of a closed model only: nothing, truth values, numbers, text, dates, lists,
and maps whose keys are text.  `Value.close?` folds every value into that model.  Sets become lists,
sorted by the text of their items; tuples become lists; records become the maps that templates see;
bytes become their text, and so do the keys of maps, so that two keys may fall together.

It fails only for an integer that has no text.
-/

namespace SiteTemplates

namespace Value

def keyedByText? (entries : List (Value × Value)) : Option (List (Value × Value)) :=
  (entries.mapM (fun (e : Value × Value) =>
    e.1.plain?.map (fun s => (text (String.ofList s), e.2)))).map entriesOf

def sortedBy (texts : List String) (values : List Value) : List Value :=
  ((texts.zip values).mergeSort (fun a b => decide (a.1 ≤ b.1))).map Prod.snd

mutual

def close? (now : Moment) : Value → Option Value
  | bytes bs => (plain? (bytes bs)).map (fun s => text (String.ofList s))
  | list items => (closeAll? now items).map list
  | tuple items => (closeAll? now items).map list
  | set items =>
    match items.mapM plain?, closeAll? now items with
    | some texts, some values => some (list (sortedBy (texts.map String.ofList) values))
    | _, _ => none
  | map entries => (closeValues? now entries).bind (fun es => (keyedByText? es).map map)
  | record h frontMatter =>
    (closeValues? now frontMatter).bind (fun es =>
      (keyedByText? es).bind (fun shown =>
        (keyedByText? (overlay es (Record.fields now ⟨h, frontMatter⟩ (map shown)))).map map))
  | template name source => some (map [(text "name", text name), (text "source", text source)])
  | v => some v

def closeAll? (now : Moment) : List Value → Option (List Value)
  | [] => some []
  | v :: rest =>
    match close? now v, closeAll? now rest with
    | some w, some ws => some (w :: ws)
    | _, _ => none

/-- The entries with their values in the closed model and their keys as they are. -/
def closeValues? (now : Moment) : List (Value × Value) → Option (List (Value × Value))
  | [] => some []
  | (k, v) :: rest =>
    match close? now v, closeValues? now rest with
    | some w, some ws => some ((k, w) :: ws)
    | _, _ => none

end

end Value

end SiteTemplates
