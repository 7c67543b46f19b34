import SiteTemplates.Number.Integer
import SiteTemplates.Project.Folder

/-!
# The configuration of a project

The configuration is a map with defaults, over which the map in the configuration file is
laid.  Its entries are turned into what they are needed for only when a session is opened.
-/

namespace SiteTemplates

def configFile : String := "stheno.yaml"

/-- The configuration of a project: a map. -/
structure Config where
  entries : List (Value × Value)

namespace Config

/-- The configuration of a project that does not say otherwise. -/
def default : Config where
  entries :=
    [(.text "templates_dir", .text "templates"), (.text "data_dir", .text "data"),
     (.text "max_template_size", .int 1048576), (.text "max_depth", .int 50),
     (.text "render_cache_capacity", .int 1000)]

/-- The configuration with what a value says otherwise. -/
def updated (c : Config) : Value → Config
  | .map entries => ⟨Value.overlay c.entries entries⟩
  | _ => c

def loadBy (read : DocumentReader) (root : Entry) : Except Failure Config :=
  match root.find? configFile with
  | none => .ok default
  | some (.folder _) => .error .notFile
  | some (.file content) => do return default.updated (← read (← readText content))

def get (c : Config) (name : String) : Value := (Value.lookup? name c.entries).getD .null

/-- The integer that a value stands for.  A number is cut off behind its point, and a text is
read. -/
def integerOf : Value → Except Failure Int
  | .bool b => .ok (if b then 1 else 0)
  | .int n => .ok n
  | .real x =>
    match x with
    | .notNumber => .error .badNumber
    | x => match x.truncated? with
      | some n => .ok n
      | none => .error .outOfRange
  | .text s =>
    match readInteger? s.toList with
    | some n => .ok n
    | none => .error .badNumber
  | _ => .error .wrongKind

def integer (c : Config) (name : String) : Except Failure Int := integerOf (c.get name)

def path (c : Config) (name : String) : Except Failure String :=
  match c.get name with
  | .text s => .ok s
  | _ => .error .wrongKind

end Config

end SiteTemplates
