import Literate.Log.Pretty

/-!
# Loggers

A logger writes records to a primary output, plain or pretty, and to any number of further outputs, always plain.
Outputs are numbered; a logger without an output discards what it writes.
-/

namespace Literate.Log

open Text

/-- How a logger is set up. -/
structure Config where
  output : Option Nat
  layout : Text
  level : Level
  format : Format
  caller : Bool
  pretty : Bool
  /-- Further outputs, each with its form. -/
  tees : List (Nat × Format)

namespace Config

/-- The set-up of a logger that is given nothing but its output. -/
def default (output : Option Nat) : Config where
  output
  layout := rfc3339
  level := .info
  format := .text
  caller := false
  pretty := true
  tees := []

/-- The options that handlers take from the set-up. -/
def options (c : Config) : Options := ⟨c.level, c.caller, c.layout⟩

end Config

/-- One change to the set-up of a logger. -/
inductive Change where
  | defaults (output : Option Nat)
  | output (output : Option Nat)
  | level (l : Level)
  | format (f : Format)
  | layout (t : Text)
  | caller (b : Bool)
  | pretty (b : Bool)
  | tee (output : Option Nat) (f : Format)

/-- The set-up after a change. -/
def Config.apply (c : Config) : Change → Config
  | .defaults out => .default out
  | .output out => { c with output := out }
  | .level l => { c with level := l }
  | .format f => { c with format := f }
  | .layout t => { c with layout := resolveLayout t }
  | .caller b => { c with caller := b }
  | .pretty b => { c with pretty := b }
  | .tee none _ => c
  | .tee (some out) f => { c with tees := c.tees ++ [(out, f)] }

/-- The set-up after changes, one after another. -/
def Config.applyAll (c : Config) (changes : List Change) : Config := changes.foldl Config.apply c

/-! ## Handlers -/

/-- How records are written. -/
inductive Handler where
  | plain (h : Plain)
  | pretty (h : Pretty)
  | discard

namespace Handler

/-- The plain handler for a form. -/
def ofFormat (options : Options) : Format → Handler
  | .text => .plain { json := false, options }
  | .json => .plain { json := true, options }
  | .other _ => .discard

/-- Whether records of a level are written. -/
def enabled : Handler → Level → Bool
  | plain h, l => h.options.level.severity ≤ l.severity
  | pretty h, l => h.options.level.severity ≤ l.severity
  | discard, _ => false

/-- What is written for a record. -/
def write : Handler → Record → Text
  | plain h, r => h.line r
  | pretty h, r => h.write r
  | discard, _ => []

/-- The handler with more attributes for all of its records. -/
def withAttrs : Handler → List Attr → Handler
  | plain h, attrs => plain (h.withAttrs attrs)
  | pretty h, attrs => pretty (h.withAttrs attrs)
  | discard, _ => discard

/-- The handler with one more group around the attributes to come. -/
def withGroup : Handler → Text → Handler
  | plain h, name => plain (h.withGroup name)
  | pretty h, name => pretty (h.withGroup name)
  | discard, _ => discard

end Handler

/-- The handlers of a set-up with their outputs, the primary one first. -/
def Config.handlers (c : Config) : List (Option Nat × Handler) :=
  let primary : Handler :=
    if c.pretty then .pretty { json := c.format = .json, options := c.options } else .ofFormat c.options c.format
  (c.output, primary) :: c.tees.map fun (out, f) => (some out, .ofFormat c.options f)

/-! ## Loggers -/

/-- A logger: its set-up and its handlers. -/
structure Logger where
  config : Config
  handlers : List (Option Nat × Handler)

namespace Logger

/-- The logger of a set-up. -/
def ofConfig (c : Config) : Logger := ⟨c, c.handlers⟩

/-- The logger for an output with changes to the default set-up. -/
def make (output : Option Nat) (changes : List Change) : Logger :=
  ofConfig ((Config.default output).applyAll changes)

/-- The logger with a changed set-up; attributes and groups are not carried over. -/
def wrap (l : Logger) (changes : List Change) : Logger := ofConfig (l.config.applyAll changes)

/-- The logger with more attributes for all of its records. -/
def withAttrs (l : Logger) (attrs : List Attr) : Logger :=
  { l with handlers := l.handlers.map fun (out, h) => (out, h.withAttrs attrs) }

/-- The logger with one more group around the attributes to come. -/
def withGroup (l : Logger) (name : Text) : Logger :=
  if name.isEmpty then l else { l with handlers := l.handlers.map fun (out, h) => (out, h.withGroup name) }

/-- Whether records of a level are written to some output. -/
def enabled (l : Logger) (level : Level) : Bool := l.handlers.any fun (_, h) => h.enabled level

/-- What a record writes, output by output. -/
def write (l : Logger) (r : Record) : List (Nat × Text) :=
  l.handlers.filterMap fun (out, h) =>
    if h.enabled r.message.level then out.map fun n => (n, h.write r) else none

/-- What a message writes to an output when it is said by this program. Its time is not looked at: a logger that is used
so writes no times. -/
def say (l : Logger) (m : Message) : List (Nat × Text) := l.write ⟨none, m, true⟩

end Logger

end Literate.Log
