import Literate.About
import Literate.Cli.Arguments

/-!
# The command line

`Cli.run` is the whole program: it reads the configuration files and the arguments, sets up the log, and runs a command
on a host. What the arguments say counts more than the YAML file, and that more than the JSON file.
-/

namespace Literate.Cli

open Text

/-- How the program ends. -/
inductive Outcome where
  /-- A question was answered, and no command was run. -/
  | answered
  /-- The arguments, or the settings of the configuration, are not understood. -/
  | misused
  /-- A configuration file cannot be read. -/
  | unreadableConfig
  /-- A command was run, and may have been stopped. -/
  | finished (stop : Option Stop)

/-- The path of a configuration file. -/
def configPath (folder : Text) (extension : String) : Text := Path.joinTwo folder ("config." ++ extension)

/-- The text of a configuration file, if there is one that can be read. -/
def configText? (h : Host) (folder : Text) (extension : String) : Option Text :=
  h.disk.textUnder? (configPath folder extension)

/-- The configurations, the strongest last. -/
def configs? (h : Host) (folder : Text) : Option (List Config) := do
  let json ← (configText? h folder "json").toList.mapM Config.ofJson?
  let yaml ← (configText? h folder "yaml").toList.mapM Config.ofYaml?
  return json ++ yaml

/-- The absolute form of a path; a tilde stands for the home folder. -/
def expand (h : Host) (path : Text) : Text :=
  if Path.isAbsolute path then path
  else match dropStart? path "~/" with
    | some rest => Path.joinTwo (h.env "HOME") rest
    | none => h.disk.absolute path

/-- What the arguments need to know of a host. -/
def pathsOf (h : Host) : Paths where
  expand := expand h
  isFile path := h.disk.has path && !h.disk.hasFolder path

/-- The answer to a question. -/
def Question.answer : Question → Text
  | .version => About.version ++ "\n"
  | .help =>
    "Usage: " ++ About.name ++ " [" ++ join " | " (Verb.all.map Verb.name) ++ "] [<sources> ...] [flags]\n\n" ++
      About.description ++ "\n"

/-- Runs a command. -/
def perform (folder : Text) (v : Verb) (o : Options) (h : Host) : Host × Option Stop :=
  match v with
  | .init => o.init.run (configPath folder "yaml") o.log.values h
  | .list => o.list.run h
  | .run => o.run.run h

/-- Runs the program with the given arguments. The configuration files are in the given folder. -/
def run (folder : Text) (args : List Text) (h : Host) : Host × Outcome :=
  let h := { h with logger := h.logger.wrap (Logging.scan none args) }
  match configs? h folder, Reading.ofArguments? (pathsOf h) args with
  | none, _ => (h, .unreadableConfig)
  | some _, none => (h, .misused)
  | some configs, some r =>
    let v := r.verb.getD .run
    match r.asked, r.options.complete? (expand h) configs r.given v with
    | some q, _ => (h.print q.answer, .answered)
    | none, none => (h, .misused)
    | none, some o =>
      if o.isValid then
        let early := o.log.provisional fun name => r.given.contains (none, name)
        let (h, stop) := perform folder v o (o.log.start { h with logger := h.logger.wrap early })
        (h, .finished stop)
      else (h, .misused)

/-- Whether arguments make the program read its standard input. -/
def readsStdin (h : Host) (args : List Text) : Bool :=
  match Reading.ofArguments? (pathsOf h) args with
  | none => false
  | some r =>
    let v := r.verb.getD .run
    let sources := if v = .list then r.options.list.input.sources else r.options.run.input.sources
    r.asked.isNone && v.readsSources && (sources = [] || sources.contains (ofString "-"))

namespace Outcome

/-- Whether the program did what it was asked for. -/
def succeeded : Outcome → Bool
  | answered => true
  | finished none => true
  | _ => false

/-- What made the program fail. -/
def failure? : Outcome → Option Failure
  | answered => none
  | misused => some (.foreign "invalid arguments or settings")
  | unreadableConfig => some (.foreign "invalid configuration file")
  | finished none => none
  | finished (some .canceled) => some (.foreign "context canceled")
  | finished (some .crashed) => some (.foreign "index out of range")
  | finished (some .endless) => none
  | finished (some (.failed f)) => some f

/-- The last record of a run that failed. -/
def report (o : Outcome) (h : Host) : Text :=
  match o.failure? with
  | none => []
  | some f =>
    let value : Log.Value := if f.head.isOwn then .failure f.message f.attrs else .error f.message
    ({ h with log := [] }.say .error "run failed" [("error", value)]).log

end Outcome

end Literate.Cli
