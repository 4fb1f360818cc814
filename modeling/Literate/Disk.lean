import Literate.Path

/-!
# Disks

A disk holds files and folders by their location, and knows the folder in which relative paths begin. Paths are followed
component by component, so that `a/..` needs a folder `a`; this is unlike `Path.clean`, which works on the text alone.

One file can have many paths: there are links, which are followed wherever they stand in a path, and further names of a
file. A location, once it has been reached by a path, is that of the file itself.

A write names a file that may not exist yet: `Disk.place` gives its location. Everything else names what exists:
`Disk.locate` gives its location.
-/

namespace Literate

open Text

/-- The names that lead from the root to a file or folder. -/
abbrev Location := List Text

/-- A file that does not keep what is written to it: a device, a terminal, or a pipe whose other end is open. -/
structure Device where
  /-- What is read from it. If there is nothing here, then reading it does not end. -/
  text? : Option Text
  /-- Whether it takes what is written to it. Otherwise it has no space, not even for an empty text. -/
  takes : Bool
deriving DecidableEq

/-- What stands at a location. -/
inductive Node where
  | file (text : Text)
  | folder
  | device (v : Device)
  /-- A link to a path, which begins in the folder of the link unless it is absolute. -/
  | link (path : Text)
  /-- A further name of the file at a location. -/
  | twin (l : Location)
deriving DecidableEq

/-- Whether a text can be put where this stands, or where nothing does: a file may be there already, but nothing else. -/
def Node.isFillable : Option Node → Bool
  | none => true
  | some (.file _) => true
  | some _ => false

/-- Why a path leads nowhere. -/
inductive Trouble where
  | missing
  | notFolder
  | isFolder
  | invalid
  | nameTooLong
  | forbidden
  | noSpace
  | tooManyLinks
deriving DecidableEq, Repr

/-- The wording of a trouble. -/
def Trouble.message : Trouble → Text
  | .missing => "no such file or directory"
  | .notFolder => "not a directory"
  | .isFolder => "is a directory"
  | .invalid => "invalid argument"
  | .nameTooLong => "file name too long"
  | .forbidden => "permission denied"
  | .noSpace => "no space left on device"
  | .tooManyLinks => "too many levels of symbolic links"

/-- The message of an operation that a path made impossible. -/
def Trouble.about (t : Trouble) (operation : String) (path : Text) : Text :=
  operation ++ " " ++ path ++ ": " ++ t.message

/-- The message of a write that failed: that a file has no space shows only after it has been opened. -/
def Trouble.whileWriting (t : Trouble) (path : Text) : Text := t.about (if t = .noSpace then "write" else "open") path

/-- Files and folders. The root is a folder of every disk, and so is the folder of `Disk.devices`, which are the same on
every disk. -/
structure Disk where
  nodes : List (Location × Node) := []
  /-- The folder in which relative paths begin. -/
  here : Location := []
  /-- The texts that `Disk.write` gave to files in place of theirs, in order. A file that is written is modified, even if
  it had the text already. -/
  saved : List (Location × Text) := []
  /-- The files that can be written, but not read. -/
  sealed : List Location := []

namespace Disk

/-- The location of a device that takes whatever is written and is empty. -/
def null : Location := ["dev", "null"]

/-- The location of a device that takes whatever is written and can be read without end. -/
def zero : Location := ["dev", "zero"]

/-- The location of a device that takes nothing and can be read without end. -/
def full : Location := ["dev", "full"]

/-- The devices of every disk. -/
def devices : List (Location × Device) := [(null, ⟨some [], true⟩), (zero, ⟨none, true⟩), (full, ⟨none, false⟩)]

/-- What stands at a location of every disk: devices, their folder, and the root. -/
def fixed? (l : Location) : Option Node :=
  match devices.lookup l with
  | some v => some (.device v)
  | none => if l = [] ∨ l = null.dropLast then some .folder else none

/-- What stands at a location. -/
def find? (d : Disk) (l : Location) : Option Node := (fixed? l).or (d.nodes.lookup l)

/-- The text of the file at a location, if it has one. -/
def text? (d : Disk) (l : Location) : Option Text :=
  match d.find? l with
  | some (.file t) => some t
  | some (.device v) => v.text?
  | _ => none

/-- Whether a file stands at a location, or a device. -/
def isFile (d : Disk) (l : Location) : Bool :=
  match d.find? l with
  | some (.file _) => true
  | some (.device _) => true
  | _ => false

/-- The device at a location. -/
def device? (d : Disk) (l : Location) : Option Device :=
  match d.find? l with
  | some (.device v) => some v
  | _ => none

/-- Whether a folder stands at a location. -/
def isFolder (d : Disk) (l : Location) : Bool := d.find? l = some .folder

/-- The disk with a node at a location, in place of what stood there. -/
def put (d : Disk) (l : Location) (n : Node) : Disk :=
  if d.nodes.any (·.1 = l) then { d with nodes := d.nodes.map fun e => if e.1 = l then (l, n) else e }
  else { d with nodes := d.nodes ++ [(l, n)] }

/-- The disk with folders at a location and above it, where nothing stood before. -/
def putFolders (d : Disk) (l : Location) : Disk :=
  (List.range (l.length + 1)).foldl (fun d n => if (d.find? (l.take n)).isSome then d else d.put (l.take n) .folder) d

/-- The disk with a file, and with folders above it. -/
def putFile (d : Disk) (l : Location) (text : Text) : Disk := (d.putFolders l.dropLast).put l (.file text)

/-- The disk after a text is written to the file at a location in place of its own. A device does not keep it. -/
def fill (d : Disk) (l : Location) (text : Text) : Disk :=
  if Node.isFillable (d.find? l) then d.put l (.file text) else d

/-! ## Following paths -/

/-- The longest name of a file or folder. -/
def maxName : Nat := 255

/-- The longest path. -/
def maxPath : Nat := 4095

/-- The most links that are followed on the way to one file. -/
def maxLinks : Nat := 40

/-- The location one component on from a folder. -/
def enter (l : Location) (name : Text) : Except Trouble Location :=
  if name = [] ∨ name = ("." : Text) then .ok l
  else if name = (".." : Text) then .ok l.dropLast
  else if maxName < name.length then .error .nameTooLong
  else .ok (l ++ [name])

/-- Where the components of a path begin to count, if relative paths begin in the given folder. -/
def startFrom (folder : Location) (path : Text) : Location := if Path.isAbsolute path then [] else folder

/-- Where a name leads that stands in a path. -/
inductive Turn where
  /-- To a location. -/
  | there (l : Location)
  /-- To a link, and so to the path of the link. -/
  | link (path : Text)
deriving DecidableEq

/-- Where a path goes on that has come to a location. -/
def arrive (d : Disk) (l : Location) : Except Trouble Turn :=
  match d.find? l with
  | some (.link path) => .ok (.link path)
  | some (.twin file) => if d.isFile file then .ok (.there file) else .error .missing
  | _ => .ok (.there l)

/-- Where a name leads from a folder. -/
def turn (d : Disk) (l : Location) (name : Text) : Except Trouble Turn := (enter l name).bind d.arrive

/-- The location at the end of a sequence of components, as far as no link is among them; `onLink` goes on from there.
If the path is `new`, nothing has to stand at its end, but no separator may follow the last name. -/
def followWith (d : Disk) (new : Bool) (onLink : Location → List Text → Except Trouble Location) :
    Location → List Text → Except Trouble Location
  | l, [] => if new ∨ (d.find? l).isSome then .ok l else .error .missing
  | l, name :: rest =>
    match d.find? l with
    | none => .error .missing
    | some .folder =>
      if new ∧ rest ≠ [] ∧ rest.all (· = []) then .error .isFolder
      else match d.turn l name with
        | .error t => .error t
        | .ok (.link path) => onLink (startFrom l path) (pieces Path.separator path ++ rest)
        | .ok (.there next) => d.followWith new onLink next rest
    | some _ => .error .notFolder

/-- The location at the end of a sequence of components. So many links may be among them. -/
def follow (d : Disk) (new : Bool) : (links : Nat) → Location → List Text → Except Trouble Location
  | 0 => d.followWith new fun _ _ => .error .tooManyLinks
  | links + 1 => d.followWith new (d.follow new links)

/-- What is wrong with a path whatever the disk holds. -/
def unusable? (path : Text) : Option Trouble :=
  if path.contains 0 then some .invalid
  else if path = [] then some .missing
  else if maxPath < path.length then some .nameTooLong
  else none

/-- The location at the end of a path. -/
def resolve (d : Disk) (new : Bool) (path : Text) : Except Trouble Location :=
  match unusable? path with
  | some t => .error t
  | none => d.follow new maxLinks (startFrom d.here path) (pieces Path.separator path)

/-- The location of an existing file or folder. -/
def locate (d : Disk) (path : Text) : Except Trouble Location := d.resolve false path

/-- The location of an existing file or folder that is opened to be read. -/
def access (d : Disk) (path : Text) : Except Trouble Location := do
  let l ← d.locate path
  if d.sealed.contains l then .error .forbidden else .ok l

/-- The location of a file that is written: its folder exists, and no folder stands in its place. -/
def place (d : Disk) (path : Text) : Except Trouble Location :=
  match d.resolve true path with
  | .error t => .error t
  | .ok l => if d.isFolder l then .error .isFolder else .ok l

/-! ## Files -/

/-- Replaces the text of a file. -/
def write (d : Disk) (path text : Text) : Except Trouble Disk :=
  match d.place path with
  | .error t => .error t
  | .ok l =>
    if (d.device? l).any (!·.takes) then .error .noSpace
    else .ok { d.fill l text with saved := d.saved ++ [(l, text)] }

/-- The text of the file under a path, if it leads to one that can be read to its end. -/
def textUnder? (d : Disk) (path : Text) : Option Text :=
  match d.access path with
  | .ok l => d.text? l
  | .error _ => none

/-- Whether a path leads to a device that can be read without end. -/
def isEndless (d : Disk) (path : Text) : Bool :=
  match d.access path with
  | .ok l => (d.device? l).any (·.text?.isNone)
  | .error _ => false

/-- Whether a path leads to a folder. -/
def hasFolder (d : Disk) (path : Text) : Bool :=
  match d.locate path with
  | .ok l => d.isFolder l
  | .error _ => false

/-- Whether a path leads anywhere. -/
def has (d : Disk) (path : Text) : Bool := (d.locate path).toOption.isSome

/-- The absolute form of a path: below the working folder, and cleaned. -/
def absolute (d : Disk) (path : Text) : Text :=
  if Path.isAbsolute path then Path.clean path
  else Path.joinTwo (Path.separator :: join "/" d.here) path

/-- The names of what stands in a folder. -/
def entries (d : Disk) (l : Location) : List Text :=
  d.nodes.filterMap fun (p, _) => if p ≠ [] ∧ p.dropLast = l then p.getLast? else none

end Disk

end Literate
