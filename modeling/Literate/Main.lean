import Literate.Cli
import Literate.Shell.Run

/-!
# The program

Reads the working folder and the other files that the arguments and the environment name, runs `Cli.run`, and writes
back what changed. Hidden files are left alone.
-/

namespace Literate

open Text

/-- A text as the bytes of a file. -/
def bytesOf (t : Text) : ByteArray := ⟨t.toArray⟩

/-- A text as the name of a file. -/
def nameOf (t : Text) : String := (toString? t).getD ""

/-- The location of an absolute path. -/
def locationOf (path : Text) : Location := Path.components path

/-- The path of a location. -/
def pathOf (l : Location) : String := nameOf ("/" ++ join "/" l)

/-- The disk with what stands at a location, and with everything below it. -/
partial def load (d : Disk) (l : Location) : IO Disk := do
  let path := (← IO.currentDir) / pathOf l
  if (Disk.devices.lookup l).isSome then return d
  else if ← path.isDir then
    (← path.readDir).foldlM (fun d e => do
      if e.fileName.startsWith "." then return d else load d (l ++ [ofString e.fileName])) (d.putFolders l)
  else if ← path.pathExists then
    return d.putFile l (← IO.FS.readBinFile path).data.toList
  else return d

/-- What may be a path in an argument: all of it, what is assigned to a flag, or what follows a letter. -/
def pathsIn (arg : Text) : List Text := [arg, arg.drop 2] ++ (cut (byte '=') arg).toList.map (·.2)

/-- What is left of a stream. -/
partial def readAll (stream : IO.FS.Stream) (read : Text) : IO Text := do
  let bytes ← stream.read 65536
  if bytes.isEmpty then return read else readAll stream (read ++ bytes.data.toList)

/-- Writes the files that differ from those of another disk, or have been written in between. -/
def store (before after : Disk) : IO Unit :=
  after.nodes.forM fun
    | (l, .file t) =>
      if before.text? l = some t ∧ after.saved.all (·.1 ≠ l) then pure () else IO.FS.writeBinFile (pathOf l) (bytesOf t)
    | (l, .folder) => if before.isFolder l then pure () else IO.FS.createDirAll (pathOf l)
    | _ => pure ()

/-- The variables of the environment that count. -/
def environmentNames : List String := ["HOME", "SHELL", "XDG_CONFIG_HOME", nameOf About.pathVariable]

end Literate

open Literate Text Log

def main (args : List String) : IO UInt32 := do
  let environment ← environmentNames.filterMapM fun name =>
    return (← IO.getEnv name).map fun value => (ofString name, ofString value)
  let here := locationOf (ofString (toString (← IO.currentDir)))
  let empty : Host :=
    { disk := { here }, environment, logger := .make (some primaryOutput) [], programs := Shell.programs }
  let base := empty.env "XDG_CONFIG_HOME"
  let folder := Path.joinAll [if base = [] then Path.joinTwo (empty.env "HOME") ".config" else base, About.name]
  let args := args.map ofString
  let named := args.flatMap pathsIn ++ pieces (byte ':') (empty.env About.pathVariable)
  let disk ← (folder :: named.filter (· ≠ [])).foldlM
    (fun d p => load d (locationOf (empty.disk.absolute (Cli.expand empty p)))) (← load empty.disk here)
  let start := { empty with disk := disk.putFolders (locationOf folder) }
  let stdin ← if Cli.readsStdin start args then readAll (← IO.getStdin) [] else pure []
  let (h, outcome) := Cli.run folder args { start with stdin }
  store disk h.disk
  (← IO.getStdout).write (bytesOf h.stdout)
  (← IO.getStderr).write (bytesOf (h.stderr ++ h.log ++ outcome.report h))
  return if outcome.succeeded then 0 else 1
