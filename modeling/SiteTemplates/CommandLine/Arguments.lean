import SiteTemplates.Text.Likeness
import SiteTemplates.Text.Quoted
import SiteTemplates.Text.Split

/-!
# Arguments

The arguments of a command are options and words.  An option may have a value, which stands behind
an equals sign or is the argument after it.  After two hyphens there are only words, and for a
command that has other commands in it also after the first word.
-/

namespace SiteTemplates.CommandLine

open Text

structure Choice where
  name : String
  value? : Option String
  help : String

/-- What is wrong with the arguments of a command. -/
inductive UsageFault where
  | unknownOption (name : String) (near : List String)
  | valueMissing (name : String)
  | valueNeedless (name : String)
  | wordMissing (name : String)
  | wordsLeft (words : List String)
  | unknownCommand (name : String)
  | commandMissing
deriving DecidableEq, Repr

def UsageFault.message : UsageFault → String
  | unknownOption name near =>
    let hint :=
      match near with
      | [] => ""
      | [other] => " Did you mean " ++ other ++ "?"
      | others => " (Possible options: " ++ ", ".intercalate others ++ ")"
    "No such option: " ++ name ++ hint
  | valueMissing name => "Option '" ++ name ++ "' requires an argument."
  | valueNeedless name => "Option '" ++ name ++ "' does not take a value."
  | wordMissing name => "Missing argument '" ++ name ++ "'."
  | wordsLeft words =>
    let noun := if words.length = 1 then "argument" else "arguments"
    "Got unexpected extra " ++ noun ++ " (" ++ " ".intercalate words ++ ")"
  | unknownCommand name => "No such command " ++ String.ofList (quoted name.toList) ++ "."
  | commandMissing => "Missing command."

/-- Whether the usage of the command is shown with a fault. -/
def UsageFault.showsUsage : UsageFault → Bool
  | valueMissing _ | valueNeedless _ => false
  | _ => true

structure Arguments where
  options : List (String × Option String) := []
  words : List String := []
deriving DecidableEq, Repr

namespace Arguments

def withOption (name : String) (value? : Option String) (a : Arguments) : Arguments :=
  { a with options := (name, value?) :: a.options }

def withWord (word : String) (a : Arguments) : Arguments := { a with words := word :: a.words }

def has (a : Arguments) (name : String) : Bool := a.options.any (fun o => o.1 == name)

def value? (a : Arguments) (name : String) : Option String :=
  (a.options.reverse.lookup name).bind id

/-- An argument in two parts: what is in front of the first equals sign, and what is behind it. -/
def nameAndValue (arg : String) : String × Option String :=
  let cs := arg.toList
  match cs.dropWhile (fun c => c != '=') with
  | [] => (arg, none)
  | _ :: value => (String.ofList (cs.takeWhile (fun c => c != '=')), some (String.ofList value))

def isOption (arg : String) : Bool :=
  match arg.toList with
  | '-' :: _ :: _ => true
  | _ => false

/-- The fault of an option that there is not.  After a single hyphen only the next character
counts. -/
def unknown (choices : List Choice) (arg : String) : UsageFault :=
  match arg.toList with
  | '-' :: '-' :: _ =>
    let name := (nameAndValue arg).1
    let near := (choices.map Choice.name).filter (fun choice => areAlike choice name)
    .unknownOption name (near.mergeSort (fun a b => decide (a ≤ b)))
  | cs => .unknownOption (String.ofList (cs.take 2)) []

/-- Reads arguments; `inWords` says whether options may still come after a word, and `awaiting?` is
an option whose value comes next. -/
def readFrom (choices : List Choice) (inWords : Bool) (awaiting? : Option String) :
    List String → Except UsageFault Arguments
  | [] =>
    match awaiting? with
    | none => .ok {}
    | some name => .error (.valueMissing name)
  | arg :: rest =>
    match awaiting? with
    | some name => (readFrom choices inWords none rest).map (withOption name (some arg))
    | none =>
      if arg = "--" then .ok { words := rest }
      else if isOption arg then
        let (name, value?) := nameAndValue arg
        match choices.find? (fun choice => choice.name == name) with
        | none => .error (unknown choices arg)
        | some choice =>
          match choice.value?, value? with
          | none, some _ => .error (.valueNeedless name)
          | some _, none => readFrom choices inWords (some name) rest
          | _, _ => (readFrom choices inWords none rest).map (withOption name value?)
      else if inWords then (readFrom choices inWords none rest).map (withWord arg)
      else .ok { words := arg :: rest }

def read (choices : List Choice) (inWords : Bool) (args : List String) :
    Except UsageFault Arguments :=
  readFrom choices inWords none args

end Arguments

end SiteTemplates.CommandLine
