import Almanac.CommandLine
import Almanac.Zone.Names
import Std.Time.DateTime.Timestamp

/-! # The program

Reads the files a command line names, runs it and prints what it leaves behind.
-/
namespace Almanac.CommandLine

/-- What a file system holds under a name. -/
def find (name : String) : IO Found := do
  try return .text (← IO.FS.readFile name)
  catch
    | .noFileOrDirectory .. => return .missing
    | _ => return .unreadable

/-- The date on a clock of universal time. -/
def currentDate : IO Date := do
  let now ← Std.Time.Timestamp.now
  return (Instant.utc ⟨now.toSecondsSinceUnixEpoch.val, 0⟩).date

/-- What the standard input holds, if the options ask for it. -/
def findInput (o : Options) : IO Found := do
  if o.readsStdin then
    let bytes ← (← IO.getStdin).readBinToEnd
    match String.fromUTF8? bytes with
    | some s => return .text s
    | none => return .unreadable
  else return .missing

end Almanac.CommandLine

open Almanac CommandLine in
/-- The program: the status it ends with is the exit code of the run. -/
def main (arguments : List String) : IO UInt32 := do
  let o : Options := match CommandLine.read arguments with
    | .ok (.render o) => o
    | _ => { events := some "" }
  let names := o.config.toList ++ o.events.toList
  let found ← names.mapM find
  let file := fun name => ((names.zip found).lookup name).getD .missing
  let outcome := CommandLine.run .listed arguments file (← findInput o) (← currentDate)
  IO.print outcome.stdout
  IO.eprint outcome.stderr
  return outcome.exit.toUInt32
