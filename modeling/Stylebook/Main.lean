import Stylebook.Command.Run

/-!
The program: it looks at the files that a command asks for, runs the command, and carries out its
actions.
-/

namespace Stylebook

/-- What stands at a path on the disk. -/
def readEntry (p : Path) : IO (Option Entry) := do
  try
    let bytes ← IO.FS.readBinFile p.text
    return some (.file bytes.toList)
  catch _ =>
    try
      discard (IO.FS.withFile (p.child ".").text .read fun _ => pure ())
      return some .directory
    catch _ => return none

def detailLine (d : Detail) : String :=
  let step : Step → String
    | .name s => s
    | .index i => toString i
  Text.joinWith "." (d.path.map step) ++ ": " ++ d.defect.label

def carryOut : Command.Action → IO Unit
  | .print text => IO.println text
  | .complain message ds =>
    IO.eprintln (message ++ Text.joinWith "; " (ds.map detailLine))
  | .makeDirectories p => IO.FS.createDirAll p.text
  | .write p text => IO.FS.writeFile p.text text

/-- Runs a command; the exit code is 0 only if it did what was asked for. -/
def runProgram (c : Command) : IO UInt32 := do
  let entries ← c.inputs.mapM fun p => return (p, ← readEntry p)
  let result := c.run fun p => (Pairs.get? p entries).join
  result.actions.forM carryOut
  if let some text := result.failure then IO.eprintln text
  return if result.success then 0 else 1

end Stylebook

def main (words : List String) : IO UInt32 :=
  match Stylebook.Command.ofWords? words with
  | some c => Stylebook.runProgram c
  | none => do
    IO.eprintln "Usage: compile | validate | generate | themes"
    return 2
