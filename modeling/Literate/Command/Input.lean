import Literate.About
import Literate.Command.Sources
import Literate.Scan
import Literate.SearchPath

/-!
# Reading the input of a command

What every command that reads documents is told: which ones, and how to read them.
-/

namespace Literate.Command

open Text Log

/-- What a command reads, and how. -/
structure Input where
  sources : List Text := []
  includePath : List Text := []
  regionTags : List Text := []
  marker : Text := Settings.defaultMarker
  maxDepth : Int := Settings.defaultMaxDepth

/-- A host on which a command left off: it may have been stopped. -/
abbrev Finished := Host × Option Stop

/-- Logs what happened during a call. -/
def replay (h : Host) (events : Array Event) : Host :=
  events.foldl (fun h e =>
    match e with
    | .logged m => h.say m.level m.text m.attrs
    | .asked _ => h) h

/-- A list as it is logged: an empty one was never made. -/
def listAttr (key : String) (items : List Text) : Attr := Attr.texts key (if items = [] then none else some items)

namespace Input

/-- The settings with which documents are read. -/
def settings (i : Input) (h : Host) : Host × Except Stop Settings :=
  let path := searchPath h.disk (h.env About.pathVariable) i.includePath
  (h.say .debug "configure" [Attr.text "marker" i.marker, listAttr "region_tags" i.regionTags,
    listAttr "search_path" path, Attr.int "max_depth" i.maxDepth],
   Settings.make i.marker i.regionTags path i.maxDepth)

/-- Opens a source. -/
def openSource (h : Host) : InputSource → Except Failure Source
  | .stdin => .ok { text := h.stdin }
  | .file path =>
    match h.disk.openSource path with
    | .ok source => .ok source
    | .error cause => .error (.unreadableInput path cause)

/-- Reads sources into a web one after another, up to the first that fails. -/
def readAll (settings : Settings) : Host → Web → List InputSource → Host × Web × Option Stop
  | h, w, [] => (h, w, none)
  | h, w, source :: rest =>
    match openSource h source with
    | .error f => (h, w, some (.failed f))
    | .ok text =>
      let (s, stop) := w.parse settings h.disk.library true source.name text
      let h := replay h s.events
      match stop with
      | some stop => (h, s.web, some stop)
      | none => readAll settings h s.web rest

/-- Reads all sources into a web. -/
def read (i : Input) (settings : Settings) (h : Host) (w : Web) : Host × Web × Option Stop :=
  match InputSource.resolve h.disk.identify none i.sources with
  | .error f => (h, w, some (.failed f))
  | .ok sources => readAll settings h w sources

end Input

end Literate.Command
