import Literate.Log.Logger
import Literate.Programs

/-!
# Hosts

The host is what a command acts on: a disk, an environment, two output streams, the programs of the machine and a logger.
The logger's primary output is kept as a text; a further output is a file of the disk, to which records are appended.
-/

namespace Literate

open Text Log

namespace Log

/-- A logger that writes nothing. -/
def Logger.silent : Logger := ⟨.default none, []⟩

/-- The number of a logger's primary output. -/
def primaryOutput : Nat := 0

/-- The number of the output that is a file. -/
def fileOutput : Nat := 1

end Log

/-- What a command acts on. -/
structure Host where
  disk : Disk := {}
  environment : List (Text × Text) := []
  stdin : Text := []
  stdout : Text := []
  stderr : Text := []
  /-- The message with which every write to the standard output fails. -/
  stdoutError : Option Text := none
  logger : Logger := .silent
  /-- What the logger wrote to its primary output. -/
  log : Text := []
  /-- The file to which records are appended. -/
  logFile : Option Location := none
  /-- The digest of a text, by which texts of the same length are told apart. Unless another is given, it is the text. -/
  digest : Text → Text := id
  /-- The programs that can be run, the shell among them. -/
  programs : Programs := .none
  /-- The moment that a command takes for the present. -/
  clock : Instant := .make 1767225600 0 .host

namespace Host

/-- The value of a variable of the environment; an absent one is empty. -/
def env (h : Host) (name : Text) : Text := (h.environment.lookup name).getD []

/-- Writes to one output of the logger. -/
def record (h : Host) (output : Nat) (t : Text) : Host :=
  if output = primaryOutput then { h with log := h.log ++ t }
  else match h.logFile with
    | none => h
    | some l => { h with disk := h.disk.fill l ((h.disk.text? l).getD [] ++ t) }

/-- Logs a message. -/
def say (h : Host) (level : Level) (text : Text) (attrs : List Attr) : Host :=
  (h.logger.say ⟨level, text, attrs⟩).foldl (fun h (output, t) => h.record output t) h

/-- Writes to the standard output. -/
def print (h : Host) (t : Text) : Host := { h with stdout := h.stdout ++ t }

end Host

end Literate
