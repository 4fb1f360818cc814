import Literate.Path
import Literate.Web

/-!
# Reading documents

A document is read line by line. A physical line that ends in a backslash is joined with the next one (`fold`). Outside
of regions only the delimiters of regions mean something (`scanOutside`); inside, a line is a directive or is stored
(`scanInside`). An `include` directive reads another file in its place: `scanSource` recurs into the file with one less
from a bound on the depth, and `Web.parse` starts with a bound that the chain of included files cannot reach.
-/

namespace Literate

open Text Log

/-! ## Failures -/

namespace Failure

/-- A failure with the position and the text of the directive at which it arose. -/
def located (f : Failure) (position : Position) (directive : Text) : Failure :=
  f.withAttrs ((if position.isZero then [] else [Attr.text "position" position.text]) ++
    (if directive = [] then [] else [Attr.text "directive" directive]))

/-- A position as the cause of a failure. -/
def ofPosition (p : Position) : Option Failure := if p.isZero then none else some (foreign p.text)

/-- Names in a row, from the outermost to the innermost. -/
def chainText (names : List Text) : Text := join " → " names

/-- The fault of a region delimiter in the wrong place. -/
def delimiter (fault : Fault) (l : LogicalLine) (chain : List Text) : Failure :=
  (((ofFault fault).wrap (ofPosition l.position)).located l.position l.body).withAttrs
    [Attr.text "chain" (chainText chain)]

/-- An included file cannot be opened. -/
def unreadableInclude (l : LogicalLine) (target : Text) (cause : Option Text) : Failure :=
  (((ofFault .unreadableInclude).wrap (cause.map foreign)).located l.position l.body).withAttrs
    [Attr.text "file" target]

/-- A file is included while it is being read. -/
def duplicateInclude (l : LogicalLine) (path : Text) (chain : List Text) : Failure :=
  (((ofFault .duplicateInclude).wrap (ofPosition l.position)).located l.position l.body).withAttrs
    [Attr.text "file" path, Attr.text "chain" (chainText chain)]

/-- A document cannot be read to its end. -/
def unreadableInput (file cause : Text) : Failure :=
  ((ofFault .unreadableInput).wrap (some (foreign cause))).withAttrs [Attr.text "file" file]

end Failure

/-! ## Included files -/

/-- The list without elements that repeat the one before them. -/
def dropRepeats : List Text → List Text
  | a :: b :: rest => if a = b then dropRepeats (b :: rest) else a :: dropRepeats (b :: rest)
  | rest => rest

/-- The paths under which an included file is looked for: the target itself, then below the directory of the including
file, then below each directory of the search path. -/
def candidates (searchPath : List Text) (target source : Text) : List Text :=
  if Path.isAbsolute target then [target]
  else
    let dir := Path.directory source
    dropRepeats (target ::
      (if source ≠ [] ∧ dir ≠ ("." : Text) then [Path.joinTwo dir target] else []) ++
      searchPath.map (Path.joinTwo · target))

namespace Session

/-- Asks the library for a document. -/
def ask (lib : Library) (s : Session) (name : Text) : Session × Except Text Source :=
  ({ s with events := s.events.push (.asked name) }, lib.read name)

/-- Opens the first of the paths that can be opened; otherwise the error of the first path is given. -/
def openFirst (lib : Library) : (paths : List Text) → Option Text → Session → Session × Except (Option Text) (Text × Source)
  | [], first, s => (s, .error first)
  | p :: ps, first, s =>
    match s.ask lib p with
    | (s, .ok source) => (s, .ok (p, source))
    | (s, .error e) => openFirst lib ps (first.or (some e)) s

end Session

/-! ## Lines -/

/-- How an included file is read: under which name, and from which source. -/
abbrev Reader := (path : Text) → Source → Session → Outcome

section Lines

variable (settings : Settings) (lib : Library) (read : Reader)

/-- Reads the file that a directive includes. The file starts outside of any region; afterwards the region of the
including file goes on. -/
def includeFile (target : Text) (l : LogicalLine) (s : Session) : Outcome :=
  match s.openFirst lib (candidates settings.searchPath target l.position.file) none with
  | (s, .error cause) => (s, some (.failed (.unreadableInclude l target cause)))
  | (s, .ok (path, source)) =>
    let key := Path.clean path
    let chain := s.web.chain
    if chain.contains key then (s, some (.failed (.duplicateInclude l path chain)))
    else
      let s := s.log .debug "include" [Attr.text "file" path, Attr.int "depth" chain.length]
      let (s, stop) := read path source (s.modify fun w => { w with chain := w.chain ++ [key], inRegion := false })
      (s.modify fun w => { w with chain := w.chain.dropLast, inRegion := true }, stop)

/-- Logs that names were opened or closed. -/
def logNames (s : Session) (verb : Text) (k : Kind) (l : LogicalLine) (names : List Text) : Session :=
  s.log .trace (verb ++ " " ++ k.text)
    [Attr.text "position" l.position.text, Attr.texts "names" (some names), Attr.texts "open" (s.web.loggedNames k)]

/-- The request of a directive. -/
def directiveRequest (action : Action) (k : Kind) (name target : Text) (l : LogicalLine) : Request :=
  { action, ref := ⟨k, name⟩, target, origin := .directive, position := l.position }

/-- The request that a directive with these arguments makes, if it makes one. -/
def requestOf (action : Action) (k : Kind) (args : Text) (l : LogicalLine) : Option Request :=
  match action with
  | .display =>
    match fields args with
    | name :: _ => some (directiveRequest .display k name [] l)
    | [] => none
  | .output =>
    match fields args with
    | name :: target :: _ => some (directiveRequest .output k name target l)
    | _ => none
  | .pipe => (pipeArguments? args).map fun (name, command) => directiveRequest .pipe k name command l
  | .other _ => none

/-- Carries out a directive. -/
def obey (d : Directive) (args : Text) (l : LogicalLine) (s : Session) : Outcome :=
  match d with
  | .beginRegion => (s, some (.failed (.delimiter .regionNested l s.web.chain)))
  | .endRegion =>
    ((s.modify fun w => { w with inRegion := false }).log .trace "region end"
      [Attr.text "position" l.position.text], none)
  | .includeFile =>
    match fields args with
    | [] => (s, none)
    | target :: _ => includeFile settings lib read target l s
  | .beginGroup k =>
    let names := fields args
    (logNames (s.modify (·.openNames k names)) "begin" k l names, none)
  | .endGroup k =>
    let names := fields args
    (logNames (s.modify (·.closeNames k names)) "end" k l names, none)
  | .use k =>
    match fields args with
    | [] => (s, none)
    | names => (s.modify (·.push (.use ⟨k, names, l.body, l.position⟩)), none)
  | .display k => (s.modify fun w => (requestOf .display k args l).elim w w.request, none)
  | .output k => (s.modify fun w => (requestOf .output k args l).elim w w.request, none)
  | .pipe k => (s.modify fun w => (requestOf .pipe k args l).elim w w.request, none)
  | .includeCode => (s.modify fun w => { w with includeCode := true }, none)
  | .print => (s.modify (·.accept args), none)

/-- A line inside a region: a directive, or a line to be stored. -/
def scanInside (l : LogicalLine) (s : Session) : Outcome :=
  match settings.grammar.classify l with
  | some (d, args) =>
    obey settings lib read d args l
      (s.log .trace "directive" [Attr.text "keyword" d.label, Attr.text "position" l.position.text])
  | none => (s.modify (·.accept l.text), none)

/-- A line outside of any region: only the beginning of a region means something, unless code is to be included. -/
def scanOutside (l : LogicalLine) (s : Session) : Outcome :=
  if settings.grammar.isBegin l.body then
    ((s.modify fun w => { w with inRegion := true, includeCode := false }).log .trace "region begin"
      [Attr.text "position" l.position.text], none)
  else if settings.grammar.isEnd l.body then (s, some (.failed (.delimiter .regionOutside l s.web.chain)))
  else if s.web.includeCode then (s.modify (·.accept l.text), none)
  else (s, none)

/-- A logical line. -/
def scanLine (l : LogicalLine) (s : Session) : Outcome :=
  if s.web.inRegion then scanInside settings lib read l s else scanOutside settings l s

/-- A physical line after the fragment that waits for it: either a logical line is complete, or it still waits. -/
def fold (pending : Option Fragment) (position : Position) (text : Text) : Fragment ⊕ LogicalLine :=
  let content := trimEnd isLineEnd text
  let terminator := text.drop content.length
  let (body, position) : Text × Position :=
    match pending with
    | none => (content, position)
    | some p => (p.body ++ collapseLeading content, p.position)
  if endsWith body "\\" then .inl ⟨body.dropLast, position⟩ else .inr ⟨body, terminator, position⟩

/-- A physical line. -/
def scanPhysical (position : Position) (text : Text) (s : Session) : Outcome :=
  match fold s.web.pending position text with
  | .inl fragment => (s.modify fun w => { w with pending := some fragment }, none)
  | .inr l => scanLine settings lib read l (s.modify fun w => { w with pending := none })

/-- The physical lines of a file from number `n` on. -/
def scanLines (file : Text) : (n : Nat) → List Text → Session → Outcome
  | _, [], s => (s, none)
  | n, text :: rest, s =>
    match scanPhysical settings lib read ⟨file, n⟩ text s with
    | (s, none) => scanLines file (n + 1) rest s
    | stopped => stopped

end Lines

/-! ## Documents -/

/-- Why reading stops after the last line of a source: the call is cancelled, or the rest cannot be read. -/
def Source.stop? (name : Text) (source : Source) : Option Stop :=
  if source.abandoned then some .canceled
  else source.readError.map fun e => .failed (.unreadableInput name e)

/-- Reads a source under a name, with at most `depth` files inside each other. -/
def scanSource (settings : Settings) (lib : Library) : (depth : Nat) → Reader
  | 0 => fun _ _ s => (s, some .crashed)
  | depth + 1 => fun name source s =>
    match scanLines settings lib (scanSource settings lib depth) name 1 (physicalLines source.text) s with
    | (s, none) => (s, source.stop? name)
    | stopped => stopped

namespace Web

/-- Reads a source as the next part of the document; a call that is not `live` was cancelled before it began. -/
def parse (settings : Settings) (lib : Library) (live : Bool) (name : Text) (source : Source) (w : Web) : Outcome :=
  if w.expanded then
    (⟨w, #[]⟩, some (.failed ((Failure.ofFault .alreadyExpanded).withAttrs [Attr.text "file" name])))
  else
    let s := (Session.mk { w with chain := [Path.clean name] } #[]).log .debug "parse start" [Attr.text "file" name]
    let (s, stop) : Outcome :=
      if live then scanSource settings lib (lib.limit + 1) name source s else (s, some .canceled)
    let s := s.modify fun w => { w with chain := [] }
    match stop with
    | none => (s.log .debug "parse done" [Attr.text "file" name, Attr.int "lines" s.web.lines.size], none)
    | stop => (s, stop)

/-- Reads the document that the library has under a name. -/
def parseFile (settings : Settings) (lib : Library) (live : Bool) (name : Text) (w : Web) : Outcome :=
  match (Session.mk w #[]).ask lib name with
  | (s, .error e) => (s, some (.failed (.unreadableInput name e)))
  | (s, .ok source) =>
    let (t, stop) := w.parse settings lib live name source
    ({ t with events := s.events ++ t.events }, stop)

end Web

end Literate
