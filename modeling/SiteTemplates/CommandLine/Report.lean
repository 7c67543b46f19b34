import SiteTemplates.CommandLine.Usage
import SiteTemplates.Project.Yaml
import SiteTemplates.Text.Style

/-!
# Running a command

`run` gives what a command prints and how it ends, for a project in a folder.
-/

namespace SiteTemplates.CommandLine

structure Report where
  exitCode : Nat := 0
  output : String := ""
  messages : String := ""
  failure? : Option Failure := none
deriving DecidableEq, Repr

namespace Report

def plain (r : Report) : Report :=
  { r with output := Text.withoutStyles r.output, messages := Text.withoutStyles r.messages }

def ofFault (c : Command) (f : UsageFault) : Report := { exitCode := 2, messages := c.complaint f }

def ofHelp (c : Command) : Report := { output := c.help }

def ofFailure (f : Failure) : Report := { exitCode := 1, failure? := some f }

end Report

def version : String := "0.1.0"

/-! ### Rendering -/

def percent (part whole : Nat) : String :=
  toString (if whole = 0 then 0 else Binary.roundQuotient (100 * part) whole) ++ "%"

/-- The sizes of the caches and the lookups among rendered texts. -/
def statistics (c : CacheManager) : String :=
  let hits := c.renders.hits
  let misses := c.renders.misses
  "Cache statistics:\n" ++
  "  content entries:  " ++ toString c.contents.size ++ "\n" ++
  "  template entries: " ++ toString c.templates.size ++ "\n" ++
  "  render entries:   " ++ toString c.renders.size ++ "\n" ++
  "  render hits/misses: " ++ toString hits ++ "/" ++ toString misses ++
    " (" ++ percent hits (hits + misses) ++ ")\n"

/-- Renders the template of a name.  An empty key counts as none. -/
def render (root : Entry) (now : Moment) (name : String) (key? : Option String) (stats : Bool) :
    Report :=
  match Session.opened root now with
  | .error f => .ofFailure f
  | .ok s =>
    let key := (key?.filter (fun key => !key.isEmpty)).getD (CacheManager.pageKey name)
    match s.renderFor now name key with
    | (s, .ok text) =>
      { output := text ++ "\n", messages := if stats then statistics s.caches else "" }
    | (_, .error (.render _ e)) =>
      { exitCode := 1
        messages := "Render failed:\n  Template: " ++ name ++ "\n  Error: " ++ e.message ++ "\n" }
    | (_, .error f) => .ofFailure f

/-! ### Dependencies -/

def row (names : List String) : String := if names.isEmpty then "-" else ", ".intercalate names

def neighbours (c : TemplateCache) (name : String) : String :=
  name ++ "\n  includes: " ++ row (c.dependencies name) ++
    "\n  used by:  " ++ row (c.dependents name) ++ "\n"

/-- Shows what a template includes and what includes it.  Without a name, or with an empty one, it
does so for all templates. -/
def deps (root : Entry) (now : Moment) (name? : Option String) : Report :=
  match Session.opened root now with
  | .error f => .ofFailure f
  | .ok s =>
    let c := s.caches.templates
    match name?.filter (fun name => !name.isEmpty) with
    | none => { output := String.join (c.names.map (neighbours c)) }
    | some name =>
      if (c.get? name).isSome then { output := neighbours c name }
      else { exitCode := 1, messages := "Error: Unknown template: " ++ name ++ "\n" }

/-! ### All commands -/

def runRender (root : Entry) (now : Moment) (args : List String) : Report :=
  match Arguments.read renderCommand.choices true args with
  | .error f => .ofFault renderCommand f
  | .ok a =>
    if a.has "--help" then .ofHelp renderCommand
    else
      match a.words with
      | [] => .ofFault renderCommand (.wordMissing "NAME")
      | [name] => render root now name (a.value? "--key") (a.has "--stats")
      | _ :: rest => .ofFault renderCommand (.wordsLeft rest)

def runDeps (root : Entry) (now : Moment) (args : List String) : Report :=
  match Arguments.read depsCommand.choices true args with
  | .error f => .ofFault depsCommand f
  | .ok a =>
    if a.has "--help" then .ofHelp depsCommand
    else
      match a.words with
      | [] => deps root now none
      | [name] => deps root now (some name)
      | _ :: rest => .ofFault depsCommand (.wordsLeft rest)

/-- The report that the first option asks for, if any does. -/
def answerOption? (a : Arguments) : Option Report :=
  match a.options with
  | [] => none
  | ("--version", _) :: _ => some { output := "stheno, version " ++ version ++ "\n" }
  | _ :: _ => some (.ofHelp rootCommand)

/-- The report on a word that is no command.  One that looks like an option is taken for one. -/
def unknownCommand (name : String) (args : List String) : Report :=
  match Arguments.read rootCommand.choices false (name :: args) with
  | .error f => .ofFault rootCommand f
  | .ok a => (answerOption? a).getD (.ofFault rootCommand (.unknownCommand name))

/-- Runs the command that arguments ask for, with whatever style its texts have. -/
def styledRun (root : Entry) (now : Moment) (args : List String) : Report :=
  if args.isEmpty then { exitCode := 2, messages := rootCommand.help }
  else
    match Arguments.read rootCommand.choices false args with
    | .error f => .ofFault rootCommand f
    | .ok a =>
      match answerOption? a with
      | some report => report
      | none =>
        match a.words with
        | [] => .ofFault rootCommand .commandMissing
        | "render" :: args => runRender root now args
        | "deps" :: args => runDeps root now args
        | name :: args => unknownCommand name args

def run (root : Entry) (now : Moment) (args : List String) : Report :=
  (styledRun root now args).plain

end SiteTemplates.CommandLine
