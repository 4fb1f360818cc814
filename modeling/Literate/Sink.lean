import Literate.Host
import Literate.Web

/-!
# Sinks

A sink takes the text of a chunk or stream: the standard output, a file, or a command of the shell.
-/

namespace Literate

open Text Log

/-- Where text goes. -/
inductive Sink where
  /-- The standard output. -/
  | console
  /-- A file; one that has the text already can be left alone. -/
  | file (path : Text) (skipUnchanged : Bool)
  /-- The input of a command. Without a shell, that of the environment is used. -/
  | pipe (command shell : Text)
deriving DecidableEq

namespace Sink

/-- The shell that runs commands if neither the sink nor the environment names one. -/
def defaultShell : Text := "/bin/sh"

/-- The shell that runs a command. -/
def shellFor (h : Host) (shell : Text) : Text :=
  if shell ≠ [] then shell
  else if h.env "SHELL" ≠ [] then h.env "SHELL"
  else defaultShell

/-- The names of signals. -/
def signalName : Nat → Text
  | 1 => "hangup"
  | 2 => "interrupt"
  | 3 => "quit"
  | 4 => "illegal instruction"
  | 5 => "trace/breakpoint trap"
  | 6 => "aborted"
  | 7 => "bus error"
  | 8 => "floating point exception"
  | 9 => "killed"
  | 10 => "user defined signal 1"
  | 11 => "segmentation fault"
  | 12 => "user defined signal 2"
  | 13 => "broken pipe"
  | 14 => "alarm clock"
  | 15 => "terminated"
  | n => "signal " ++ ofNat n

/-- The message of a program that did not end well. -/
def endingMessage? : Ending → Option Text
  | .exited 0 => none
  | .exited n => some ("exit status " ++ ofNat n)
  | .killed n => some ("signal: " ++ signalName n)

/-- Why a shell is not even asked to run a command, if it is not. -/
def startError? (h : Host) (live : Bool) (shell command : Text) : Option Text :=
  if !shell.contains Path.separator ∧ !h.programs.has shell then
    some ("exec: " ++ quote shell ++ ": executable file not found in $PATH")
  else if !live then some "context canceled"
  else if shell.contains 0 ∨ command.contains 0 then some (Trouble.invalid.about "fork/exec" shell)
  else none

/-- How a shell is asked to run a command with a text on its input. -/
def invocation (h : Host) (shell command text : Text) : Invocation where
  program := shell
  args := ["-c", command]
  environment := ("PWD", h.disk.absolute ".") :: h.environment
  input := text

/-- The failure of a sink. -/
def failure (cause : Text) (attrs : List Attr) : Failure :=
  ((Failure.ofFault .writeFailed).wrap (some (.foreign cause))).withAttrs attrs

/-- Whether a file exists and has the length and the digest of the given text. There is no answer if reading it does not
end. -/
def isUnchanged? (digest : Text → Text) (d : Disk) (path text : Text) : Option Bool :=
  if d.isEndless path then none
  else match d.textUnder? path with
    | some t => some (t.length = text.length ∧ digest t = digest text)
    | none => some false

/-- Writes a text to the standard output. -/
def writeConsole (h : Host) (name text : Text) : Host × Option Stop :=
  match h.stdoutError with
  | some m => (h, some (.failed (failure m [Attr.text "sink" "console", Attr.text "name" name])))
  | none => (h.print text, none)

/-- Writes a text to a file. -/
def writeFile (path : Text) (h : Host) (name text : Text) : Host × Option Stop :=
  match h.disk.write path text with
  | .error t =>
    (h, some (.failed (failure (t.whileWriting path)
      [Attr.text "sink" "file", Attr.text "name" name, Attr.text "target" path])))
  | .ok disk =>
    ({ h with disk }.say .debug "wrote"
      [Attr.text "name" name, Attr.text "path" path, Attr.int "bytes" text.length], none)

/-- What a program leaves behind on a host, and what was wrong with it: its own ending, or else that the standard output
does not take what it printed. -/
def passOn (h : Host) (disk : Disk) (out err : Text) (ending : Ending) : Host × Option Text :=
  let h := { h with disk, stderr := h.stderr ++ err }
  match h.stdoutError with
  | some m => (h, (endingMessage? ending).or (if out = [] then none else some m))
  | none => (h.print out, endingMessage? ending)

/-- Runs a command, and gives it a text to read. -/
def writePipe (command shell : Text) (live : Bool) (h : Host) (name text : Text) : Host × Option Stop :=
  let program := shellFor h shell
  let refusal := fun cause => Stop.failed (failure cause
    [Attr.text "sink" "pipe", Attr.text "name" name, Attr.text "target" command, Attr.text "shell" program])
  match startError? h live program command with
  | some m => (h, some (refusal m))
  | none =>
    match h.programs.run h.disk (invocation h program command text) with
    | .refused m => (h, some (refusal m))
    | .endless => (h, some .endless)
    | .ended disk out err ending =>
      let (h, trouble?) := passOn h disk out err ending
      (h, trouble?.map refusal)

/-- Hands a text to a sink. The name is that of the chunk or stream; `live` says that the call was not cancelled. -/
def write (s : Sink) (live : Bool) (h : Host) (name text : Text) : Host × Option Stop :=
  match s with
  | console => writeConsole h name text
  | file path skip =>
    match if skip then isUnchanged? h.digest h.disk path text else some false with
    | none => (h, some .endless)
    | some true => (h.say .debug "unchanged" [Attr.text "name" name, Attr.text "path" path], none)
    | some false => writeFile path h name text
  | pipe command shell => writePipe command shell live h name text

end Sink

end Literate
