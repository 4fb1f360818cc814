import Literate.Cli.Options

/-!
# Reading arguments

Arguments are read one by one from left to right: `Reading.step?` says what one more argument does, and
`Reading.ofArguments?` reads them all. There is no state but a `Reading`, which knows the flag that still awaits its
value.

The first argument that is no flag names the command, or is a source of the command that runs documents. The sources of
a command stand together; after two hyphens nothing is a flag.
-/

namespace Literate.Cli

open Text

/-- How far the sources of a command are read. -/
inductive Progress where
  | before
  | within
  | after
deriving DecidableEq

/-- What is known after some arguments. -/
structure Reading where
  verb : Option Verb := none
  options : Options := {}
  /-- The flags that were given, and those of them that were negated. -/
  given : List FlagKey := []
  negated : List FlagKey := []
  /-- The first question that was asked. -/
  asked : Option Question := none
  /-- The flag whose value is the next argument. -/
  awaiting : Option OwnedFlag := none
  /-- Whether two hyphens were read. -/
  closed : Bool := false
  progress : Progress := .before

/-- What the reading of arguments needs to know about paths. -/
structure Paths where
  expand : Text → Text
  /-- Whether a path leads to a file. -/
  isFile : Text → Bool

namespace Reading

/-- The flags that are understood: before a command is named, those of the default command. -/
def understood (r : Reading) : List OwnedFlag := (r.verb.getD .run).understood

/-- The reading after a flag was given. -/
def note (r : Reading) (f : OwnedFlag) (o : Options) : Reading :=
  { r with options := o, given := f.key :: r.given, asked := r.asked.or f.2.asks, awaiting := none }

/-- Gives a flag its value. -/
def accept? (paths : Paths) (r : Reading) (f : OwnedFlag) (g : Given) : Option Reading :=
  (f.2.target.accept? paths.expand g r.options).map (r.note f)

/-- Turns a switch on, or to the value that is assigned to it. A switch that was negated once is always turned around. -/
def turn? (r : Reading) (f : OwnedFlag) (set : Bool → Options → Options) (assigned : Option Text) (negate : Bool) :
    Option Reading :=
  let r := if negate then { r with negated := f.key :: r.negated } else r
  let value := match assigned with
    | none => some true
    | some t => switchValue? (.text t)
  value.map fun b => r.note f (set (b != r.negated.contains f.key) r.options)

/-- Reads a flag by its name, with the value that is assigned to it. -/
def flag? (paths : Paths) (r : Reading) (f : OwnedFlag) (assigned : Option Text) (negate : Bool) : Option Reading :=
  match f.2.target, assigned with
  | .switch set, _ => r.turn? f set assigned negate
  | _, some t => r.accept? paths f { value := .text t }
  | _, none => some { r with awaiting := some f }

/-- Reads an argument such as `name`, `name=value` or `no-name`, without its two hyphens. -/
def long? (paths : Paths) (r : Reading) (t : Text) : Option Reading :=
  let name := t.takeWhile (· ≠ byte '=')
  let assigned := (cut (byte '=') t).map (·.2)
  r.understood.findSome? (fun f =>
    if f.2.name = name then some (f, false)
    else if f.2.negatable ∧ ("no-" : Text) ++ f.2.name = name then some (f, true)
    else none) |>.bind fun (f, negate) => r.flag? paths f assigned negate

/-- Reads letters of flags, without their hyphen. What follows the letter of a flag with a value is the value. -/
def letters? (paths : Paths) (r : Reading) : Text → Option Reading
  | [] => some r
  | b :: rest =>
    (r.understood.find? fun f => f.2.letter.any fun c => byte c = b && c.toNat < 128).bind fun f =>
      match f.2.target with
      | .switch set => (r.turn? f set none false).bind fun r => letters? paths r rest
      | _ => r.flag? paths f (if rest = [] then none else some rest) false

/-- Reads a source. -/
def source? (paths : Paths) (r : Reading) (v : Verb) (t : Text) : Option Reading :=
  let path := if t = ("-" : Text) then t else paths.expand (toValid t)
  if !v.readsSources ∨ r.progress = .after then none
  else if t = ("-" : Text) ∨ paths.isFile path then
    some { r with verb := some v, options := r.options.withSources v [path], progress := .within }
  else none

/-- Reads an argument that is no flag. -/
def operand? (paths : Paths) (r : Reading) (t : Text) : Option Reading :=
  match r.verb, Verb.ofName? t with
  | some v, _ => r.source? paths v t
  | none, some v => some { r with verb := some v }
  | none, none => r.source? paths .run t

/-- The reading before a flag: sources that were being read end here. -/
def leave (r : Reading) : Reading := { r with progress := if r.progress = .within then .after else r.progress }

/-- Reads one more argument. -/
def step? (paths : Paths) (r : Reading) (arg : Text) : Option Reading :=
  match r.awaiting with
  | some f => r.accept? paths f { value := .text arg, separate := true }
  | none =>
    if r.closed ∨ isOperand arg then r.operand? paths arg
    else if arg = ("--" : Text) then some { r.leave with closed := true }
    else match dropStart? arg "--" with
      | some t => r.leave.long? paths t
      | none => r.leave.letters? paths (arg.drop 1)

/-- Reads all arguments. -/
def ofArguments? (paths : Paths) (args : List Text) : Option Reading :=
  (args.foldlM (step? paths) {}).bind fun r => if r.awaiting.isSome then none else some r

end Reading

end Literate.Cli
