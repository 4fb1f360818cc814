import Literate.Directive
import Literate.Failure
import Literate.Repository
import Literate.Request

/-!
# The state of a web

A *web* collects the chunks and streams of the documents that are read into it. This module holds its state, its
settings, and what a call leaves behind: the new state, the events that happened on the way, and the reason why the
call stopped, if it did.
-/

namespace Literate

open Text Log

/-! ## Calls that stop -/

/-- Why a call stopped before its end, or what keeps it from getting there. -/
inductive Stop where
  /-- The caller had cancelled it. -/
  | canceled
  /-- It failed. -/
  | failed (f : Failure)
  /-- It ran into a state in which it has no answer. -/
  | crashed
  /-- It waits for something that does not end. -/
  | endless

/-! ## Settings -/

/-- What stays fixed while documents are read. -/
structure Settings where
  grammar : Grammar
  searchPath : List Text := []
  maxDepth : Int := 1000

namespace Settings

/-- The marker that is used unless another is set. -/
def defaultMarker : Text := "="

/-- The tags that are always accepted. -/
def defaultTags : List Text := ["region", "litweb"]

/-- The deepest nesting of uses that is followed unless another is set. -/
def defaultMaxDepth : Int := 1000

/-- Checks the marker and the tags, which are accepted besides the default ones. A marker that is not made of characters
passes these checks, but no pattern can be made of it. -/
def make (marker : Text) (tags searchPath : List Text) (maxDepth : Int) : Except Stop Settings :=
  if !isMarker marker then
    .error (.failed ((Failure.ofFault .invalidMarker).withAttrs [Attr.text "marker" marker]))
  else match tags.find? (!isTag ·) with
    | some tag => .error (.failed ((Failure.ofFault .invalidRegionTag).withAttrs [Attr.text "tag" tag]))
    | none =>
      if !isValid marker then .error .crashed
      else .ok { grammar := ⟨marker, defaultTags ++ tags⟩, searchPath, maxDepth }

end Settings

/-! ## Sources -/

/-- A document as it is read: its text, and the message of the error that ends the reading, if one does. -/
structure Source where
  text : Text
  readError : Option Text := none
  /-- Whether the caller has cancelled the call by the time this much of the document is read. -/
  abandoned : Bool := false

/-- Where included files are opened. -/
structure Library where
  /-- The document under a name, or the message that says why it cannot be opened. -/
  read : Text → Except Text Source
  /-- As many as there are cleaned names under which a document can be opened, or more. -/
  limit : Nat

namespace Library

/-- The library of a list of documents by name. -/
def ofList (documents : List (Text × Source)) : Library where
  read name :=
    match documents.lookup name with
    | some source => .ok source
    | none => .error ("open " ++ name ++ ": file does not exist")
  limit := documents.length

end Library

/-! ## State -/

/-- A folded line that waits for its continuation. -/
structure Fragment where
  body : Text
  position : Position
deriving DecidableEq

/-- The state of a web. -/
structure Web where
  /-- The stored lines; the index of a line never changes. -/
  lines : Array Text := #[]
  repository : Repository := .empty
  queue : Array Request := #[]
  /-- The open names of each namespace, in the order in which they were opened. -/
  opened : PerKind (List Text) := ⟨[], []⟩
  inRegion : Bool := false
  includeCode : Bool := false
  pending : Option Fragment := none
  /-- The files being read, outermost first. -/
  chain : List Text := []
  /-- The references being expanded, outermost first. -/
  guard : List Ref := []
  expanded : Bool := false

namespace Web

/-- A web into which nothing was read. -/
def empty : Web := {}

/-- Queues a request. -/
def request (w : Web) (r : Request) : Web := { w with queue := Request.enqueue w.queue r }

/-- The queued requests in the order in which they are carried out. -/
def requests (w : Web) : List Request := Request.arrange w.queue

/-- Appends an element to every open chunk and every open stream. -/
def push (w : Web) (e : Element) : Web :=
  { w with repository :=
      (w.repository.pushAll .chunk w.opened.chunk e).pushAll .stream w.opened.stream e }

/-- Stores a line, and appends it to every open chunk and stream. -/
def accept (w : Web) (text : Text) : Web :=
  ({ w with lines := w.lines.push text }).push (.line w.lines.size)

/-- Opens names of a namespace, and defines them. -/
def openNames (w : Web) (k : Kind) (names : List Text) : Web :=
  { w with
    opened := w.opened.modify k (names.foldl fun (s : List Text) name => if s.contains name then s else s ++ [name])
    repository := names.foldl (fun r name => r.define ⟨k, name⟩) w.repository }

/-- Closes names of a namespace. -/
def closeNames (w : Web) (k : Kind) (names : List Text) : Web :=
  { w with opened := w.opened.modify k (·.filter (!names.contains ·)) }

/-- The open names of a namespace as they are logged: before any name was opened there is no list. -/
def loggedNames (w : Web) (k : Kind) : Option (List Text) :=
  if (w.repository.get k).isEmpty then none else some (w.opened.get k)

end Web

/-! ## Calls -/

/-- What happens during a call, besides its effect on the state. -/
inductive Event where
  /-- A document was asked for under this name. -/
  | asked (name : Text)
  /-- A message was logged. -/
  | logged (m : Message)

/-- A web in the middle of a call, with the events so far. -/
structure Session where
  web : Web
  events : Array Event := #[]

namespace Session

/-- Logs a message. -/
def log (s : Session) (level : Level) (text : Text) (attrs : List Attr) : Session :=
  { s with events := s.events.push (.logged ⟨level, text, attrs⟩) }

/-- Applies a change to the web. -/
def modify (s : Session) (f : Web → Web) : Session := { s with web := f s.web }

end Session

/-- What a call leaves behind: without a reason to stop, it went through. -/
abbrev Outcome := Session × Option Stop

end Literate
