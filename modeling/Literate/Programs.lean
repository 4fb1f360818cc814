import Literate.Disk

/-!
# Programs

What a machine makes of a program that it is asked to run. Nothing is assumed of its programs: they may read and write
any file, print anything, end in any way, or not end at all.
-/

namespace Literate

open Text

/-- How a program ends. -/
inductive Ending where
  | exited (status : Nat)
  | killed (signal : Nat)
deriving DecidableEq

/-- A program that is to be run: its path or name, its arguments, its environment, and the text that it is given to
read. -/
structure Invocation where
  program : Text
  args : List Text
  environment : List (Text × Text)
  input : Text
deriving DecidableEq

/-- What comes of an invocation. -/
inductive Execution where
  /-- The program cannot be started, for this reason. -/
  | refused (message : Text)
  /-- The program does not end. -/
  | endless
  /-- The program has ended. The disk is as it left it, and these are the texts that it wrote to its two outputs. -/
  | ended (disk : Disk) (out err : Text) (ending : Ending)

/-- The programs of a machine. -/
structure Programs where
  /-- Whether a program is found under a name that is not a path. -/
  has : Text → Bool
  run : Disk → Invocation → Execution

/-- A machine without any programs. -/
def Programs.none : Programs where
  has _ := false
  run d i :=
    match d.locate i.program with
    | .error t => .refused (t.about "fork/exec" i.program)
    | .ok _ => .refused (Trouble.forbidden.about "fork/exec" i.program)

end Literate
