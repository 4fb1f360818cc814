import Literate.Programs
import Literate.Shell.Syntax
import Literate.Shell.Tool

/-!
# Sessions

A session is a shell in the middle of a script: a disk, the streams that are open, and the shell's own process with its
parameters and its descriptors. Descriptors lead to streams, and several of them can lead to the same one. What a command
does is an action (`Act`): it changes the session, and may stop what is being run.
-/

namespace Literate.Shell

open Text

/-! ## Streams -/

/-- What a descriptor can lead to. -/
inductive Stream where
  /-- A text that is read and of which this is left. -/
  | input (rest : Text)
  /-- What has been written to an output. -/
  | output (t : Text)
  /-- A file, at an offset or at its end. -/
  | file (l : Location) (offset : Nat) (isAtEnd : Bool)

/-- A disk with open streams. -/
structure Machine where
  disk : Disk
  streams : List Stream := []

namespace Machine

/-- The text of the file at a location; an absent file is empty. -/
def textAt (m : Machine) (l : Location) : Text := (m.disk.text? l).getD []

/-- Opens a stream, and gives its number. -/
def add (m : Machine) (s : Stream) : Nat × Machine := (m.streams.length, { m with streams := m.streams ++ [s] })

/-- Changes a stream. -/
def set (m : Machine) (n : Nat) (s : Stream) : Machine := { m with streams := m.streams.set n s }

/-- Writes to a stream. -/
def write (m : Machine) (n : Nat) (t : Text) : Machine :=
  match m.streams[n]? with
  | some (.output before) => m.set n (.output (before ++ t))
  | some (.file l offset isAtEnd) =>
    let old := m.textAt l
    let place := if isAtEnd then old.length else offset
    let padding : Text := List.replicate (place - old.length) 0
    let new := old.take place ++ padding ++ t ++ old.drop (place + t.length)
    { (m.set n (.file l (place + t.length) isAtEnd)) with disk := m.disk.fill l new }
  | _ => m

/-- What is left to be read from a stream. -/
def remaining (m : Machine) (n : Nat) : Text :=
  match m.streams[n]? with
  | some (.input t) => t
  | some (.file l offset _) => (m.textAt l).drop offset
  | _ => []

/-- Passes over bytes of a stream. -/
def consume (m : Machine) (n count : Nat) : Machine :=
  match m.streams[n]? with
  | some (.input t) => m.set n (.input (t.drop count))
  | some (.file l offset isAtEnd) => m.set n (.file l (offset + count) isAtEnd)
  | _ => m

/-- What has been written to a stream. -/
def written (m : Machine) (n : Nat) : Text :=
  match m.streams[n]? with
  | some (.output t) => t
  | _ => []

/-- The file that a stream leads to, and its offset. -/
def file? (m : Machine) (n : Nat) : Option (Location × Nat) :=
  match m.streams[n]? with
  | some (.file l offset _) => if l = Disk.null then none else some (l, offset)
  | _ => none

/-- Whether a stream takes nothing. -/
def isFull (m : Machine) (n : Nat) : Bool := (m.file? n).any fun (l, _) => l = Disk.full

end Machine

/-! ## Processes -/

/-- The state of a shell as far as it does not share it with others. -/
structure Process where
  /-- The name that the shell has for itself. -/
  name : Text
  /-- The number that the shell has for itself. -/
  number : Nat
  /-- The numbers of the shells that wait for this one. -/
  parents : List Nat := []
  arguments : List Text := []
  /-- Parameters with their values, latest first. -/
  values : List (Text × Text) := []
  /-- The parameters that other shells get. -/
  exported : List Text := []
  /-- The parameters that cannot be changed. -/
  fixed : List Text := []
  functions : List (Text × Command) := []
  /-- The stream of each open descriptor. -/
  descriptors : List (Nat × Nat) := [(0, 0), (1, 1), (2, 2)]
  /-- The documents of the lines so far. -/
  documents : List Word := []
  status : Nat := 0
  line : Nat := 1
  /-- Whether a failure ends the shell. -/
  stopsOnFailure : Bool := false
  /-- Whether an absent parameter is an error. -/
  needsValues : Bool := false
  /-- Whether the process is a copy of the shell whose number it has. -/
  isCopy : Bool := false
  /-- How many loops the command stands in. -/
  loops : Nat := 0
  /-- What comes before the messages about commands that another command runs. -/
  lead : Text := []
  /-- The status of the last command whose output was taken. -/
  substituted : Option Nat := none

namespace Process

/-- The value of a named parameter. -/
def value? (p : Process) (name : Text) : Option Text := p.values.lookup name

/-- The process with a value for a parameter. -/
def withValue (p : Process) (name value : Text) : Process :=
  { p with values := (name, value) :: p.values.filter (·.1 ≠ name) }

/-- The process without a parameter. -/
def without (p : Process) (name : Text) : Process :=
  { p with values := p.values.filter (·.1 ≠ name), exported := p.exported.filter (· ≠ name) }

/-- The process with a descriptor that leads to a stream, or to none. -/
def withDescriptor (p : Process) (d : Nat) (stream : Option Nat) : Process :=
  let others := p.descriptors.filter (·.1 ≠ d)
  { p with descriptors := match stream with
    | some n => (d, n) :: others
    | none => others }

/-- The bytes that separate fields. -/
def separators (p : Process) : Text := (p.value? "IFS").getD " \t\n"

end Process

/-! ## Actions -/

/-- A shell in the middle of a script. -/
structure Session where
  machine : Machine
  process : Process
  /-- The number of the shell that was started last. -/
  lastNumber : Nat
  /-- The shells that have been sent a signal while they wait for another process. -/
  doomed : List (Nat × Nat) := []

/-- Why what is being run stops. -/
inductive Stop where
  /-- The process ends. -/
  | exited (status : Nat)
  /-- A process is ended by a signal. -/
  | killed (process signal : Nat)
  /-- Loops are left. -/
  | left (loops : Nat)
  /-- A loop goes on with its next round, after loops inside of it are left. -/
  | again (loops : Nat)
  /-- A function ends. -/
  | returned (status : Nat)
  /-- The bound on the number of steps is reached, so nothing here comes to an end. -/
  | endless
deriving DecidableEq

/-- What a command does. -/
abbrev Act := ExceptT Stop (StateM Session)

namespace Act

/-- The process. -/
def process : Act Process := do return (← get).process

/-- Changes the process. -/
def change (f : Process → Process) : Act Unit := modify fun s => { s with process := f s.process }

/-- Changes the machine. -/
def changeMachine (f : Machine → Machine) : Act Unit := modify fun s => { s with machine := f s.machine }

/-- Sets the status. -/
def setStatus (n : Nat) : Act Unit := change ({ · with status := n })

/-- The stream that a descriptor leads to. -/
def stream? (d : Nat) : Act (Option Nat) := do return (← process).descriptors.lookup d

/-- Writes to a descriptor. -/
def emit (d : Nat) (t : Text) : Act Unit := do
  match ← stream? d with
  | some n => changeMachine (·.write n t)
  | none => return

/-- Why nothing can be written to a descriptor, if that is so. -/
def obstacle? (d : Nat) : Act (Option Text) := do
  match ← stream? d with
  | none => return some "Bad file descriptor"
  | some n => return if (← get).machine.isFull n then some (troubleText .noSpace) else none

/-- What is left to be read from a descriptor. -/
def ahead (d : Nat) : Act Text := do
  match ← stream? d with
  | some n => return (← get).machine.remaining n
  | none => return []

/-- Passes over bytes of a descriptor. -/
def consume (d count : Nat) : Act Unit := do
  match ← stream? d with
  | some n => changeMachine (·.consume n count)
  | none => return

/-- Complains about something in the name of a command. -/
def complainAs (lead t : Text) : Act Unit := do
  let p ← process
  emit 2 (p.name ++ ": " ++ ofNat p.line ++ ": " ++ lead ++ ": " ++ t ++ "\n")

/-- Complains about something. -/
def complain (t : Text) : Act Unit := do
  let p ← process
  emit 2 (p.name ++ ": " ++ ofNat p.line ++ ": " ++ p.lead ++ t ++ "\n")

/-- Complains about something and ends the shell. -/
def fail {α : Type} (t : Text) : Act α := do
  complain t
  throw (.exited 2)

/-- Complains about something in the name of a command and ends the shell. -/
def failAs {α : Type} (lead t : Text) : Act α := do
  complainAs lead t
  throw (.exited 2)

/-- Does something, and says whether it was stopped. -/
def caught {α : Type} (a : Act α) : Act (Except Stop α) := fun s =>
  let (r, s) := a.run s
  (.ok r, s)

/-- Stops as something else was stopped. -/
def rethrow {α : Type} : Except Stop α → Act α
  | .ok x => return x
  | .error e => throw e

/-- Does something in a process of its own, and gives its ending. The folder in which relative paths begin is that of
before afterwards. A signal that the process sent to this shell takes effect when the process has ended. -/
def inProcess (f : Process → Process) (a : Act Unit) : Act Ending := do
  let p ← process
  let here := (← get).machine.disk.here
  change f
  let number := (← process).number
  let r ← caught (do
    a
    return (← process).status)
  modify fun s => { s with
    process := { p with documents := s.process.documents }
    machine := { s.machine with disk := { s.machine.disk with here } } }
  if !p.isCopy then
    match (← get).doomed.lookup p.number with
    | some n => throw (.killed p.number n)
    | none => pure ()
  match r with
  | .ok n | .error (.exited n) | .error (.returned n) => return .exited n
  | .error (.killed k n) => if k = number then return .killed n else throw (.killed k n)
  | .error .endless => throw .endless
  | .error _ => return .exited 0

/-- Does something in a copy of this process, and gives its status. -/
def inCopy (f : Process → Process) (a : Act Unit) : Act Nat := do
  match ← inProcess (fun p => { f p with isCopy := true }) a with
  | .exited n => return n
  | .killed n => return 128 + n

/-- Opens a stream for a redirection. -/
def openFile (path : Text) (arrow : Arrow) : Act (Except Text Nat) := do
  let s ← get
  let m := s.machine
  let opened := fun (m : Machine) (st : Stream) => do
    let (n, m) := m.add st
    changeMachine fun _ => m
    return Except.ok n
  let device : Option Nat :=
    if path = ("/dev/stdin" : Text) then some 0
    else if path = ("/dev/stdout" : Text) then some 1
    else if path = ("/dev/stderr" : Text) then some 2
    else (dropStart? path "/dev/fd/").bind (digits? 10)
  match device with
  | some d =>
    match ← stream? d with
    | some n => return .ok n
    | none => return .error ((if arrow = .read then ofString "cannot open " else "cannot create ") ++ path ++
        (if arrow = .read then ofString ": No such file" else ": Directory nonexistent"))
  | none =>
    let creates := fun (empties isAtEnd : Bool) =>
      match m.disk.place path with
      | .ok l =>
        let old := m.disk.text? l
        let m := if empties ∨ old.isNone then { m with disk := m.disk.fill l [] } else m
        opened m (.file l 0 isAtEnd)
      | .error .missing | .error .notFolder => return .error ("cannot create " ++ path ++ ": Directory nonexistent")
      | .error t => return .error ("cannot create " ++ path ++ ": " ++ troubleText t)
    match arrow with
    | .read =>
      match m.disk.access path with
      | .ok l => opened m (.file l 0 false)
      | .error .missing | .error .notFolder => return .error ("cannot open " ++ path ++ ": No such file")
      | .error t => return .error ("cannot open " ++ path ++ ": " ++ troubleText t)
    | .append => creates false true
    | .both => creates false false
    | _ => creates true false

end Act

end Literate.Shell
