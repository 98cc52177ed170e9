/-
# The executable

The program at the command line: the files that the options name are read first, the journal goes
to the standard error, and the node runs until the standard input ends. Nothing is reached over a
network here.
-/
import CrawlMesh.Cli.Program
import CrawlMesh.Text.Hex
import CrawlMesh.Web

open CrawlMesh

set_option autoImplicit false

namespace CrawlMesh.Executable

/-- What the program is called. -/
def program : String := "crawlmesh"

/-- A name of thirty-two digits in five groups. -/
def freshName : IO String := do
  let digits := (Text.hex (← IO.getRandomBytes 16).toList).toList
  let group (start length : Nat) : String := String.ofList ((digits.drop start).take length)
  return "-".intercalate [group 0 8, group 8 4, group 12 4, group 16 4, group 20 12]

/-- The text of a file, if it can be read. -/
def readFile? (path : String) : IO (Option (String × Json)) := do
  try return some (path, .text (← IO.FS.readFile path))
  catch _ => return none

/-- The files that arguments name. -/
def filesOf (arguments : List String) : IO (List (String × Json)) := do
  match Cli.Options.read arguments with
  | .ok o => (o.config.toList ++ o.spiders).filterMapM readFile?
  | .error _ => return []

/-- Write lines. -/
def writeAll (stream : IO.FS.Stream) (lines : List String) : IO Unit := do
  for line in lines do stream.putStrLn line
  stream.flush

/-- Write how the program ends, but for the first lines of its journal. -/
def writeEnd (e : Cli.Ended) (written : Nat) : IO UInt32 := do
  writeAll (← IO.getStdout) e.output
  writeAll (← IO.getStderr) ((e.journal.drop written).map (·.line program) ++ e.errors)
  return e.exit

/-- Wait until a stream ends. -/
partial def waitForEnd (stream : IO.FS.Stream) : IO Unit := do
  unless (← stream.getLine).isEmpty do waitForEnd stream

/-- Modules that fetch over a network by which nothing can be reached. -/
def factory (address : Net.SocketAddress) : ModuleFactory :=
  Workshop.usualFactory (some address) (Web.downloader .unreachable)

/-- Run the program. -/
def run (arguments : List String) : IO UInt32 := do
  let storage := Storage.ofFiles [] (← filesOf arguments) Stamp.numbered
  let name ← freshName
  let mesh := Mesh.new (fun _ => false) 49152
  let begun : Except Cli.Ended Cli.Running := do
    let o ← (Cli.Options.read arguments).mapError (.ofStop program)
    Cli.Running.start o (.usual name) mesh factory storage
  match begun with
  | .error e => writeEnd e 0
  | .ok r =>
    writeAll (← IO.getStderr) (r.journal.map (·.line program))
    waitForEnd (← IO.getStdin)
    writeEnd r.finish r.journal.length

end CrawlMesh.Executable

def main (arguments : List String) : IO UInt32 := CrawlMesh.Executable.run arguments
