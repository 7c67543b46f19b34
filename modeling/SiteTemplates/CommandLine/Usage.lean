import SiteTemplates.CommandLine.Arguments

/-!
# Usage

What a command tells about itself.
-/

namespace SiteTemplates.CommandLine

structure Command where
  name : String
  words : String
  summary : String
  choices : List Choice
  commands : List (String × String) := []

namespace Command

def usage (c : Command) : String := "Usage: " ++ c.name ++ " [OPTIONS]" ++ c.words ++ "\n"

def rows (entries : List (String × String)) : String :=
  let width := (entries.map (fun e => e.1.length)).foldl max 0 + 2
  String.join (entries.map (fun e =>
    "  " ++ e.1 ++ "".pushn ' ' (width - e.1.length) ++ e.2 ++ "\n"))

def shown (choice : Choice) : String × String :=
  match choice.value? with
  | none => (choice.name, choice.help)
  | some value => (choice.name ++ " " ++ value, choice.help)

def help (c : Command) : String :=
  c.usage ++ "\n  " ++ c.summary ++ "\n\nOptions:\n" ++ rows (c.choices.map shown) ++
    (if c.commands.isEmpty then "" else "\nCommands:\n" ++ rows c.commands)

def complaint (c : Command) (f : UsageFault) : String :=
  let usage :=
    if f.showsUsage then c.usage ++ "Try '" ++ c.name ++ " --help' for help.\n\n" else ""
  usage ++ "Error: " ++ f.message ++ "\n"

end Command

/-! ### The commands -/

def helpChoice : Choice := ⟨"--help", none, "Show this message and exit."⟩

def renderCommand : Command where
  name := "cli render"
  words := " NAME"
  summary := "Render template NAME with the project's data."
  choices :=
    [⟨"--key", some "TEXT", "Render cache key (defaults to page:NAME)"⟩,
     ⟨"--stats", none, "Print cache statistics to stderr"⟩, helpChoice]

def depsCommand : Command where
  name := "cli deps"
  words := " [NAME]"
  summary := "Show template dependencies (all templates when NAME is omitted)."
  choices := [helpChoice]

def rootCommand : Command where
  name := "cli"
  words := " COMMAND [ARGS]..."
  summary := "Stheno incremental template renderer."
  choices := [⟨"--version", none, "Show the version and exit."⟩, helpChoice]
  commands := [("deps", depsCommand.summary), ("render", renderCommand.summary)]

end SiteTemplates.CommandLine
