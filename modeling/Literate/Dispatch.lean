import Literate.Render
import Literate.Sink

/-!
# Carrying out requests

Requests of the command line are always carried out; those of directives only if the policy allows their action. A text
is rendered before its sink is opened, so that an undefined name never empties a file.
-/

namespace Literate

open Text Log

/-- The actions that directives may ask for. -/
structure Policy where
  display : Bool := false
  output : Bool := false
  pipe : Bool := false
deriving DecidableEq, Repr

namespace Policy

/-- Directives may display text, but neither write files nor run commands. -/
def default : Policy := { display := true }

/-- Whether a policy allows an action. -/
def allows (p : Policy) : Action → Bool
  | .display => p.display
  | .output => p.output
  | .pipe => p.pipe
  | .other _ => false

end Policy

/-- What carrying out requests does to a state: it says what happens, and hands texts to sinks under the name of the
chunk or stream they come from. -/
structure Effects (σ : Type) where
  say : σ → Level → Text → List Attr → σ
  write : σ → Sink → Text → Text → σ × Option Stop

/-- Requests that act on a host. `live` says that the call was not cancelled. -/
def Host.effects (live : Bool) : Effects Host where
  say := Host.say
  write h s name text := s.write live h name text

/-- How requests are carried out. -/
structure Dispatcher where
  policy : Policy := .default
  shell : Text := []
  skipUnchanged : Bool := false

namespace Dispatcher

/-- The sink of a request. -/
def sink (d : Dispatcher) (r : Request) : Sink :=
  match r.action with
  | .output => .file r.target d.skipUnchanged
  | .pipe => .pipe r.target d.shell
  | _ => .console

/-- Whether a request is left alone. -/
def suppresses (d : Dispatcher) (r : Request) : Bool := r.origin = .directive && !d.policy.allows r.action

/-- What is logged of a request. -/
def requestAttrs (r : Request) : List Attr :=
  [Attr.text "action" r.action.text, Attr.text "ref" r.ref.text, Attr.text "origin" r.origin.text] ++
    (if r.target = [] then [] else [Attr.text "target" r.target]) ++
    (if r.position = .zero then [] else [Attr.text "position" r.position.text])

/-- Carries out one request. -/
def carryOut {σ : Type} (d : Dispatcher) (effects : Effects σ) (render : Ref → Except Stop Text) (live : Bool)
    (s : σ) (r : Request) : σ × Option Stop :=
  if !live then (s, some .canceled)
  else if d.suppresses r then (effects.say s .debug "suppressed" (requestAttrs r), none)
  else match render r.ref with
    | .error stop => (s, some stop)
    | .ok text => effects.write (effects.say s .debug "dispatch" (requestAttrs r)) (d.sink r) r.ref.name text

/-- Carries out requests in order, up to the first that fails. -/
def dispatch {σ : Type} (d : Dispatcher) (effects : Effects σ) (render : Ref → Except Stop Text) (live : Bool) :
    σ → List Request → σ × Option Stop
  | s, [] => (s, none)
  | s, r :: rest =>
    match d.carryOut effects render live s r with
    | (s, some stop) => (s, some stop)
    | (s, none) => d.dispatch effects render live s rest

end Dispatcher

end Literate
