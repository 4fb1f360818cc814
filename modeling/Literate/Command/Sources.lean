import Literate.Failure
import Literate.Host
import Literate.Scan

/-!
# Sources

The documents that a command reads: files, and the standard input. Paths that lead to the same file are read once, and
the standard input is read last.
-/

namespace Literate

open Text Log

/-- A document that a command reads. -/
inductive InputSource where
  | file (path : Text)
  | stdin
deriving DecidableEq

namespace InputSource

/-- The path that stands for the standard input. -/
def stdinPath : Text := "-"

/-- The name of a source in messages. -/
def name : InputSource → Text
  | file path => path
  | stdin => "<stdin>"

/-- Files in the middle of being resolved: those found so far, last first, with their keys, and whether the standard input
was asked for. -/
structure Found (κ : Type) where
  files : List (Text × κ) := []
  stdin : Bool := false

section
variable {κ : Type} [DecidableEq κ]

/-- One more path. `key` tells apart files, and fails for a path that leads to none. -/
def Found.add (key : Text → Except Text κ) (stdinKey : Option κ) (f : Found κ) (path : Text) :
    Except Failure (Found κ) :=
  if path = stdinPath then .ok { f with stdin := true }
  else match key path with
    | .error cause => .error (.unreadableInput path cause)
    | .ok k =>
      if stdinKey = some k then .ok { f with stdin := true }
      else if f.files.any (·.2 = k) then .ok f
      else .ok { f with files := (path, k) :: f.files }

/-- The sources that a list of paths names. Without any path, the standard input is the only source. -/
def resolve (key : Text → Except Text κ) (stdinKey : Option κ) (paths : List Text) :
    Except Failure (List InputSource) :=
  if paths = [] then .ok [stdin]
  else do
    let found ← paths.foldlM (Found.add key stdinKey) {}
    return found.files.reverse.map (fun p => file p.1) ++ (if found.stdin then [stdin] else [])

end

end InputSource

/-! ## Documents on a disk -/

namespace Disk

/-- The most links that are followed to tell files apart. -/
def maxLinksToIdentify : Nat := 255

/-- Follows the names of an absolute path one by one to the file at its end, or says where it fails; `onLink` goes on
from a link. -/
def identifyWith (d : Disk) (onLink : Location → List Text → Except Text Location) (done : Location) :
    List Text → Except Text Location
  | [] => .ok done
  | name :: rest =>
    if name = [] ∨ name = ("." : Text) then d.identifyWith onLink done rest
    else if name = (".." : Text) then d.identifyWith onLink done.dropLast rest
    else
    let l := done ++ [name]
    let path := "/" ++ join "/" l
    if path.contains 0 then .error (Trouble.invalid.about "lstat" path)
    else if maxName < name.length ∨ maxPath < path.length then .error (Trouble.nameTooLong.about "lstat" path)
    else match d.find? l with
      | none => .error (Trouble.missing.about "lstat" path)
      | some .folder => d.identifyWith onLink l rest
      | some (.link path) => onLink (startFrom done path) (pieces Path.separator path ++ rest)
      | some (.twin file) =>
        if !d.isFile file then .error (Trouble.missing.about "lstat" path)
        else if rest = [] then .ok file else .error Trouble.notFolder.message
      | some _ => if rest = [] then .ok l else .error Trouble.notFolder.message

/-- Follows the names of an absolute path to the file at its end. So many links may be among them. -/
def identifyFrom (d : Disk) : (links : Nat) → Location → List Text → Except Text Location
  | 0 => d.identifyWith fun _ _ => .error "EvalSymlinks: too many links"
  | links + 1 => d.identifyWith (d.identifyFrom links)

/-- The location that tells a file apart from others, under whatever path it is named. -/
def identify (d : Disk) (path : Text) : Except Text Location :=
  d.identifyFrom maxLinksToIdentify [] (Path.components (d.absolute path))

/-- The document under a path. A folder can be opened, but not read; a device that can be read without end is read until
the caller cancels the call. -/
def openSource (d : Disk) (path : Text) : Except Text Source :=
  match d.access path with
  | .error t => .error (t.about "open" path)
  | .ok l =>
    match d.text? l with
    | some text => .ok { text }
    | none =>
      if d.isFolder l then .ok { text := [], readError := some (Trouble.isFolder.about "read" path) }
      else .ok { text := [], abandoned := true }

/-- The documents of a disk. There are fewer names than sequences of `maxPath + 1` bytes. -/
def library (d : Disk) : Library where
  read := d.openSource
  limit := Nat.pow 256 (maxPath + 1)

end Disk

end Literate
