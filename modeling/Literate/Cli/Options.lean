import Literate.Cli.Logging
import Literate.Command.Init
import Literate.Command.List
import Literate.Command.Run
import Literate.Config

/-!
# Options

The options of the program and of its three commands, and the flags that change them.
-/

namespace Literate.Cli

open Text Command

/-- A command of the program. -/
inductive Verb where
  | init
  | list
  | run
deriving DecidableEq, Repr

namespace Verb

/-- The commands. -/
def all : List Verb := [init, list, run]

/-- The name of a command. -/
def name : Verb → Text
  | init => "init"
  | list => "list"
  | run => "run"

/-- The command of a name. -/
def ofName? (t : Text) : Option Verb := all.find? (·.name = t)

/-- Whether a command takes sources. -/
def readsSources : Verb → Bool
  | init => false
  | list => true
  | run => true

end Verb

/-- The options of the program and of its commands. -/
structure Options where
  log : Logging := {}
  init : Init := {}
  list : Listing := {}
  run : Run := {}

/-! ## Flags -/

/-- The flags of what a command reads. -/
def inputFlags : List (Flag Input) :=
  [{ name := "include-path", letter := 'I',
     target := .words none true fun ts i => { i with includePath := i.includePath ++ ts } },
   { name := "region-tag", target := .words ',' false fun ts i => { i with regionTags := i.regionTags ++ ts } },
   { name := "marker", target := .word fun t i => { i with marker := t } },
   { name := "max-depth", target := .number fun n i => { i with maxDepth := n } }]

/-- The flags of the command that lists. -/
def listFlags : List (Flag Listing) :=
  inputFlags.map (Flag.inside Listing.input fun i l => { l with input := i }) ++
    [{ name := "chunks", target := .switch fun b l => { l with chunks := b } },
     { name := "streams", target := .switch fun b l => { l with streams := b } },
     { name := "format", letter := 'f', target := .word fun t l => { l with format := t } },
     { name := "where", letter := 'w', target := .word fun t l => { l with condition := t } }]

/-- The flags of the command that runs a document. -/
def runFlags : List (Flag Run) :=
  inputFlags.map (Flag.inside Run.input fun i r => { r with input := i }) ++
    [{ name := "allow-all", letter := 'a', target := .switch fun b r => { r with allowAll := b } },
     { name := "allow-display", target := .switch fun b r => { r with allowDisplay := b } },
     { name := "allow-output", target := .switch fun b r => { r with allowOutput := b } },
     { name := "allow-pipe", target := .switch fun b r => { r with allowPipe := b } },
     { name := "suppress-all", letter := 's', target := .switch fun b r => { r with suppressAll := b } },
     { name := "suppress-display", target := .switch fun b r => { r with suppressDisplay := b } },
     { name := "suppress-output", target := .switch fun b r => { r with suppressOutput := b } },
     { name := "suppress-pipe", target := .switch fun b r => { r with suppressPipe := b } },
     { name := "display-chunk", target := .words none false fun ts r => { r with displayChunk := r.displayChunk ++ ts } },
     { name := "display-stream",
       target := .words none false fun ts r => { r with displayStream := r.displayStream ++ ts } },
     { name := "output-chunk", target := .words none false fun ts r => { r with outputChunk := r.outputChunk ++ ts } },
     { name := "output-stream",
       target := .words none false fun ts r => { r with outputStream := r.outputStream ++ ts } },
     { name := "pipe-chunk", target := .words none false fun ts r => { r with pipeChunk := r.pipeChunk ++ ts } },
     { name := "pipe-stream", target := .words none false fun ts r => { r with pipeStream := r.pipeStream ++ ts } },
     { name := "skip-unchanged", target := .switch fun b r => { r with skipUnchanged := b } },
     { name := "shell", target := .word fun t r => { r with shell := t } }]

/-- The flags of every command. -/
def programFlags : List (Flag Options) :=
  { name := "help", letter := 'h', asks := some .help, target := .switch fun _ o => o } ::
    Logging.flags.map (Flag.inside Options.log fun l o => { o with log := l }) ++
    [{ name := "version", letter := 'V', asks := some .version, target := .switch fun _ o => o }]

/-- The flags of one command. -/
def Verb.flags : Verb → List (Flag Options)
  | init => [{ name := "force", target := .switch fun b o => { o with init := { o.init with force := b } } }]
  | list => listFlags.map (Flag.inside Options.list fun l o => { o with list := l })
  | run => runFlags.map (Flag.inside Options.run fun r o => { o with run := r })

/-- Where a flag belongs: to a command, or to the whole program. -/
abbrev Owner := Option Verb

/-- A flag together with its owner. Two commands may have flags of one name. -/
abbrev OwnedFlag := Owner × Flag Options

/-- What tells a flag apart from all others. -/
abbrev FlagKey := Owner × Text

/-- What tells a flag apart. -/
def OwnedFlag.key (f : OwnedFlag) : FlagKey := (f.1, f.2.name)

/-- The flags that a command understands. -/
def Verb.understood (v : Verb) : List OwnedFlag :=
  programFlags.map (fun f => (none, f)) ++ v.flags.map fun f => (some v, f)

namespace Options

/-- The options with sources after those that a command already has. -/
def withSources (o : Options) (v : Verb) (sources : List Text) : Options :=
  let more := fun (i : Input) => { i with sources := i.sources ++ sources }
  match v with
  | .init => o
  | .list => { o with list := { o.list with input := more o.list.input } }
  | .run => { o with run := { o.run with input := more o.run.input } }

/-- The forms in which a listing may be asked for. -/
def listingFormats : List Text := ["text", "json", "yaml"]

/-- Whether all words are among those that may be given. -/
def isValid (o : Options) : Bool := o.log.isValid && listingFormats.contains o.list.format

/-- The options of a command completed from configurations: a flag that is not among the arguments takes its setting. -/
def complete? (o : Options) (expand : Text → Text) (configs : List Config) (given : List FlagKey) (v : Verb) :
    Option Options :=
  v.understood.foldlM (fun o f =>
    if given.contains f.key then some o
    else match Config.resolveAll configs f.2.name with
      | none => some o
      | some d => f.2.target.accept? expand { value := d } o) o

end Options

end Literate.Cli
