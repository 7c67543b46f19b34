import SiteTemplates.CommandLine.Report
import SiteTemplates.Project.Listing

/-!
# The command line

The arguments say what is done; the listing of the project comes from standard input.  The caches
live no longer than the command, so that it does not matter which time they are stamped with.
-/

namespace SiteTemplates.CommandLine

/-- The lines that are left in a stream, after those in `done`, last first. -/
partial def remainingLines (input : IO.FS.Stream) (done : List String) : IO (List String) := do
  let line ← input.getLine
  if line.isEmpty then return done.reverse
  else
    let end_ := if line.endsWith "\n" then 1 else 0
    remainingLines input ((line.dropEnd end_).toString :: done)

def startOfTime : Moment := .ofDate ⟨1, 1, 1, by decide⟩

def Report.print (r : Report) : IO UInt32 := do
  (← IO.getStdout).putStr r.output
  (← IO.getStderr).putStr r.messages
  match r.failure? with
  | none => return UInt32.ofNat r.exitCode
  | some f =>
    (← IO.getStderr).putStrLn (f.message?.getD "The project cannot be read.")
    return UInt32.ofNat r.exitCode

end SiteTemplates.CommandLine

def main (args : List String) : IO UInt32 := do
  let lines ← SiteTemplates.CommandLine.remainingLines (← IO.getStdin) []
  match SiteTemplates.Entry.ofListing? lines with
  | some root =>
    (SiteTemplates.CommandLine.run root SiteTemplates.CommandLine.startOfTime args).print
  | none =>
    (← IO.getStderr).putStrLn "Error: the listing of the project is malformed."
    return 2
