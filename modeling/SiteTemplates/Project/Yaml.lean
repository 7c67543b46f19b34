import SiteTemplates.Project.Session
import SiteTemplates.Yaml.Document

/-!
# Projects in YAML

The configuration and the data of a project are YAML documents.
-/

namespace SiteTemplates

def loadData (entries : List (String × Entry)) : Except Failure (List (Value × Value)) :=
  loadDataBy Yaml.readDocument entries

namespace Config

def load (root : Entry) : Except Failure Config := loadBy Yaml.readDocument root

end Config

namespace Session

def opened (root : Entry) (now : Moment) : Except Failure Session :=
  openedBy Yaml.readDocument root now

end Session

end SiteTemplates
