import Literate.Command.Input
import Literate.Filter.Machine
import Literate.Listing

/-!
# The command that lists a document

Reads the sources and lists what every chunk and stream holds, without expanding them.
-/

namespace Literate.Command

open Text Log

/-- What the command is told. -/
structure Listing where
  input : Input := {}
  chunks : Bool := false
  streams : Bool := false
  format : Text := "text"
  /-- Which entries are listed; all of them if it is empty. -/
  condition : Text := []

namespace Listing

/-- Whether entries of a namespace are listed: both or none of two flags stand for both namespaces. -/
def shows (l : Listing) (k : Kind) : Bool := l.chunks == l.streams || (k == .chunk) == l.chunks

/-- The failure of a filter. -/
def filterFailure (l : Listing) (ref : Option Ref) : Failure :=
  (Failure.ofFault .invalidFilter).withAttrs
    ([Attr.text "where" l.condition] ++ ref.toList.map fun r => Attr.text "ref" r.text)

/-- The entries that a filter accepts, unless it fails on one of them. -/
def accepted (l : Listing) (now : Instant) (p : Filter.Program) : List Entry → Except Failure (List Entry)
  | [] => .ok []
  | entry :: rest =>
    match p.accepts? now entry with
    | none => .error (l.filterFailure (some entry.ref))
    | some keep => (l.accepted now p rest).map fun kept => if keep then entry :: kept else kept

/-- The entries that are listed, at a moment that a filter may ask for. -/
def select (l : Listing) (now : Instant) (entries : List Entry) : Except Failure (List Entry) :=
  let shown := entries.filter fun e => l.shows e.ref.kind
  if l.condition = [] then .ok shown
  else match Filter.compile? l.condition with
    | none => .error (l.filterFailure none)
    | some p => l.accepted now p shown

/-- Runs the command. -/
def run (l : Listing) (h : Host) : Finished :=
  match l.input.settings h with
  | (h, .error stop) => (h, some stop)
  | (h, .ok settings) =>
    match l.input.read settings h .empty with
    | (h, _, some stop) => (h, some stop)
    | (h, w, none) =>
      match l.select h.clock w.summary with
      | .error f => (h, some (.failed f))
      | .ok entries => (h.print (Entry.listing entries (.parse l.format)), none)

end Listing

end Literate.Command
