import Literate.Cli.Flag
import Literate.Host

/-!
# Flags of the log

How a run is logged. The flags take effect in three steps: `Logging.scan` applies what it finds among the arguments
before they are read in earnest, `Logging.provisional` applies level and form as they are known after reading them, and
`Logging.start` sets everything up.
-/

namespace Literate.Cli

open Text Log

/-- How a run is logged. -/
structure Logging where
  level : Text := "info"
  format : Text := "text"
  layout : Text := "timeonly"
  caller : Bool := false
  pretty : Bool := false
  /-- The file to which records are appended as well. -/
  file : Text := []

namespace Logging

/-- The names of levels that may be given. -/
def levels : List Text := Level.all.map Level.name

/-- The names of forms that may be given. -/
def formats : List Text := Format.all.map Format.name

/-- The flags of the log. -/
def flags : List (Flag Logging) :=
  [{ name := "log-level", target := .word fun t l => { l with level := t } },
   { name := "log-format", target := .word fun t l => { l with format := t } },
   { name := "log-time-layout", target := .word fun t l => { l with layout := t } },
   { name := "log-caller", negatable := true, target := .switch fun b l => { l with caller := b } },
   { name := "log-pretty", negatable := true, target := .switch fun b l => { l with pretty := b } },
   { name := "log-file", target := .path fun t l => { l with file := t } }]

/-- Whether level and form are among those that may be given. -/
def isValid (l : Logging) : Bool := levels.contains l.level && formats.contains l.format

/-- The values that a configuration file keeps. -/
def values (l : Logging) : List (Text × Value) :=
  [("log-level", .text l.level), ("log-format", .text l.format), ("log-time-layout", .text l.layout),
   ("log-caller", .bool l.caller), ("log-pretty", .bool l.pretty)]

/-! ## Before the arguments are read -/

/-- The value of a switch: what is assigned to it, turned around if the flag is negated. -/
def scanSwitch (assigned : Option Text) (negated : Bool) (change : Bool → Change) : List Change :=
  match assigned with
  | none => [change !negated]
  | some t => (truth? t).toList.map fun b => change (b != negated)

/-- The changes of one switch of the log. -/
def switchChanges (name : Text) (assigned : Option Text) : List Change :=
  if name = ("--log-pretty" : Text) then scanSwitch assigned false .pretty
  else if name = ("--no-log-pretty" : Text) then scanSwitch assigned true .pretty
  else if name = ("--log-caller" : Text) then scanSwitch assigned false .caller
  else if name = ("--no-log-caller" : Text) then scanSwitch assigned true .caller
  else []

/-- What a flag of the log that takes a word makes of the word. -/
def wordChange? (name : Text) : Option (Text → Change) :=
  if name = ("--log-level" : Text) then some fun t => .level (.parse t)
  else if name = ("--log-format" : Text) then some fun t => .format (.parse t)
  else none

/-- The changes that stand among arguments, wherever they are. A flag that awaits its word takes the next argument,
unless that begins with a hyphen; then its word is empty. -/
def scan (awaiting : Option (Text → Change)) : List Text → List Change
  | [] => awaiting.toList.map (· [])
  | arg :: rest =>
    match awaiting, startsWith arg "-" with
    | some change, false => change arg :: scan none rest
    | _, _ =>
      let name := arg.takeWhile (· ≠ byte '=')
      awaiting.toList.map (· []) ++
        match wordChange? name, (cut (byte '=') arg).map (·.2) with
        | none, assigned => switchChanges name assigned ++ scan none rest
        | some change, some t => change t :: scan none rest
        | some change, none => scan (some change) rest

/-! ## After the arguments are read -/

/-- Level and form before the log is started: those of arguments do not count yet. -/
def provisional (l : Logging) (isArgument : Text → Bool) : List Change :=
  let start : Logging := {}
  [.level (.parse (if isArgument "log-level" then start.level else l.level)),
   .format (.parse (if isArgument "log-format" then start.format else l.format))]

/-- The changes that the flags make to the logger. -/
def changes (l : Logging) : List Change :=
  [.level (.parse l.level), .format (.parse l.format), .layout l.layout, .caller l.caller, .pretty l.pretty]

/-- Opens the file for records. -/
def openFile (l : Logging) (h : Host) : Host × List Change :=
  if l.file = [] then (h, [])
  else match h.disk.place l.file with
    | .error t =>
      (h.say .warn "cannot open log file" [Attr.text "file" l.file, ("error", .error (t.about "open" l.file))], [])
    | .ok place =>
      let disk := if (h.disk.find? place).isSome then h.disk else h.disk.put place (.file [])
      ({ h with disk, logFile := some place }, [.tee (some fileOutput) .json])

/-- Sets up the log. -/
def start (l : Logging) (h : Host) : Host :=
  let (h, tees) := l.openFile h
  { h with logger := h.logger.wrap (l.changes ++ tees) }.say .debug "logger initialized"
    [Attr.text "level" l.level, Attr.text "format" l.format, Attr.text "time" l.layout, Attr.bool "caller" l.caller,
     Attr.bool "pretty" l.pretty, Attr.text "file" l.file]

end Logging

end Literate.Cli
