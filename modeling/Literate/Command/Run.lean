import Literate.Command.Input
import Literate.Dispatch

/-!
# The command that runs a document

Reads the sources, expands every chunk and stream, and carries out the requests: first those of the command line, then
those of the document.
-/

namespace Literate.Command

open Text Log

/-- What the command is told. -/
structure Run where
  input : Input := {}
  allowAll : Bool := false
  allowDisplay : Bool := false
  allowOutput : Bool := false
  allowPipe : Bool := false
  suppressAll : Bool := false
  suppressDisplay : Bool := false
  suppressOutput : Bool := false
  suppressPipe : Bool := false
  displayChunk : List Text := []
  displayStream : List Text := []
  outputChunk : List Text := []
  outputStream : List Text := []
  pipeChunk : List Text := []
  pipeStream : List Text := []
  skipUnchanged : Bool := false
  shell : Text := []

namespace Run

/-- What directives may do: the default, unless everything is allowed or suppressed, and then what is allowed or
suppressed by itself. -/
def policy (r : Run) : Policy :=
  let p : Policy := if r.suppressAll then {} else if r.allowAll then ⟨true, true, true⟩ else .default
  { display := (p.display || r.allowDisplay) && !r.suppressDisplay
    output := (p.output || r.allowOutput) && !r.suppressOutput
    pipe := (p.pipe || r.allowPipe) && !r.suppressPipe }

/-- The name and the value of a pair such as `name=value`; neither may be blank. -/
def splitPair? (pair : Text) : Option (Text × Text) :=
  match cut (byte '=') pair with
  | none => none
  | some (name, value) => if trimSpace name = [] ∨ trimSpace value = [] then none else some (trimSpace name, value)

/-- The requests of one flag that takes pairs. -/
def pairRequests (action : Action) (kind : Kind) (flag : String) (pairs : List Text) :
    Except Failure (List Request) :=
  pairs.mapM fun pair =>
    match splitPair? pair with
    | some (name, target) => .ok { action, ref := ⟨kind, name⟩, target, origin := .command }
    | none =>
      .error ((Failure.ofFault .invalidPair).withAttrs [Attr.text "value" pair, Attr.text "flag" ("--" ++ flag)])

/-- The requests of one flag that takes names. -/
def displayRequests (kind : Kind) (names : List Text) : List Request :=
  names.map fun name => { action := .display, ref := ⟨kind, name⟩, origin := .command }

/-- The requests of the command line. -/
def requests (r : Run) : Except Failure (List Request) := do
  let outputChunks ← pairRequests .output .chunk "output-chunk" r.outputChunk
  let outputStreams ← pairRequests .output .stream "output-stream" r.outputStream
  let pipeChunks ← pairRequests .pipe .chunk "pipe-chunk" r.pipeChunk
  let pipeStreams ← pairRequests .pipe .stream "pipe-stream" r.pipeStream
  return displayRequests .chunk r.displayChunk ++ displayRequests .stream r.displayStream ++ outputChunks ++
    outputStreams ++ pipeChunks ++ pipeStreams

/-- How requests are carried out. -/
def dispatcher (r : Run) : Dispatcher := { policy := r.policy, shell := r.shell, skipUnchanged := r.skipUnchanged }

/-- The expanded web of the sources, with the requests of the command line queued before those of the document. -/
def prepare (r : Run) (h : Host) : Host × Except Stop Web :=
  match r.input.settings h with
  | (h, .error stop) => (h, .error stop)
  | (h, .ok settings) =>
    match r.requests with
    | .error f => (h, .error (.failed f))
    | .ok requests =>
      match r.input.read settings h (requests.foldl Web.request .empty) with
      | (h, _, some stop) => (h, .error stop)
      | (h, w, none) =>
        let (s, stop) := w.expandAll settings none
        let h := replay h s.events
        match stop with
        | some stop => (h, .error stop)
        | none => (h, .ok s.web)

/-- Runs the command. -/
def run (r : Run) (h : Host) : Finished :=
  match r.prepare h with
  | (h, .error stop) => (h, some stop)
  | (h, .ok w) =>
    let p := r.policy
    let h := h.say .debug "dispatch"
      [Attr.bool "display" p.display, Attr.bool "output" p.output, Attr.bool "pipe" p.pipe]
    r.dispatcher.dispatch (Host.effects true) w.render true h w.requests

end Run

end Literate.Command
