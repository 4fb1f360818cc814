import Literate.Datum
import Literate.Text.Case
import Literate.Text.Digits
import Literate.Word

/-!
# Flags

A flag changes one part of the options of a command. What is given for it comes from an argument or from a
configuration; `Target.accept?` says which values it takes.
-/

namespace Literate.Cli

open Text

/-- What is given for a flag. -/
structure Given where
  value : Datum
  /-- Whether it is an argument of its own. A text that begins with a hyphen is no value then. -/
  separate : Bool := false

/-- Whether an argument of its own can be a value: it is a single hyphen, or begins with none. -/
def isOperand (t : Text) : Bool := t = ("-" : Text) || !startsWith t "-"

/-- The part of the options that a flag changes. -/
inductive Target (σ : Type) where
  /-- A flag that is on or off. -/
  | switch (set : Bool → σ → σ)
  | word (set : Text → σ → σ)
  /-- A path, which becomes an absolute one unless it is a single hyphen. -/
  | path (set : Text → σ → σ)
  | number (set : Int → σ → σ)
  /-- A flag that may be repeated. One text holds several values if there is a separator. -/
  | words (separator : Option Char) (paths : Bool) (add : List Text → σ → σ)

/-- What may be asked of the program in place of running a command. -/
inductive Question where
  | help
  | version
deriving DecidableEq, Repr

/-- A flag of options `σ`. -/
structure Flag (σ : Type) where
  name : Text
  letter : Option Char := none
  /-- Whether `no-` before the name turns the flag off. -/
  negatable : Bool := false
  asks : Option Question := none
  target : Target σ

variable {σ τ : Type}

/-- The same part of options that are contained in others. -/
def Target.inside (get : τ → σ) (put : σ → τ → τ) : Target σ → Target τ
  | .switch set => .switch fun b o => put (set b (get o)) o
  | .word set => .word fun t o => put (set t (get o)) o
  | .path set => .path fun t o => put (set t (get o)) o
  | .number set => .number fun n o => put (set n (get o)) o
  | .words sep paths add => .words sep paths fun ts o => put (add ts (get o)) o

/-- A flag of options that are contained in others. -/
def Flag.inside (get : τ → σ) (put : σ → τ → τ) (f : Flag σ) : Flag τ :=
  { name := f.name, letter := f.letter, negatable := f.negatable, asks := f.asks, target := f.target.inside get put }

/-! ## Values -/

/-- The values of a text, in which a backslash keeps a separator from ending a value. An empty value at the end does not
count. -/
def splitValues (separator : UInt8) (value : Text) : Text → List Text
  | [] => if value = [] then [] else [value]
  | 92 :: c :: rest => splitValues separator (value ++ if c = separator then [c] else [92, c]) rest
  | b :: rest =>
    if b = separator then value :: splitValues separator [] rest else splitValues separator (value ++ [b]) rest

/-- The values of a text for a flag that may be repeated. -/
def valuesOf (separator : Option Char) (t : Text) : List Text :=
  match separator with
  | none => [t]
  | some c => splitValues (byte c) [] t

/-- The truth value that is given for a switch. -/
def switchValue? : Datum → Option Bool
  | .bool b => some b
  | .text t =>
    let t := toLower t
    if ["true", "1", "yes"].any fun w => ofString w = t then some true
    else if ["false", "0", "no"].any fun w => ofString w = t then some false
    else none
  | _ => none

/-- The integer that is given for a number. A floating-point number counts as the integer nearest to it. -/
def numberValue? : Datum → Option Int
  | .text t => integer? t
  | .float bits => Word.ofInt? (Decimal.roundedBits bits)
  | _ => none

/-- The text that is given. -/
def textValue? (g : Given) : Option Text :=
  match g.value with
  | .text t => if g.separate && !isOperand t then none else some (toValid t)
  | _ => none

/-- The text that an item of a list is. -/
def itemValue? : Datum → Option Text
  | .text t => some (toValid t)
  | .null => some []
  | _ => none

/-- The options with what is given for a part of them, unless it is no value for it. A path of a list is taken as it
stands. -/
def Target.accept? (expand : Text → Text) (g : Given) : Target σ → σ → Option σ
  | .switch set, o => (switchValue? g.value).map fun b => set b o
  | .word set, o => (textValue? g).map fun t => set t o
  | .path set, o => (textValue? g).map fun t => set (if t = ("-" : Text) then t else expand t) o
  | .number set, o => if g.separate && (textValue? g).isNone then none else (numberValue? g.value).map fun n => set n o
  | .words separator paths add, o =>
    match g.value with
    | .list items => (items.mapM itemValue?).map fun ts => add ts o
    | .text t =>
      ((valuesOf separator t).mapM fun t => textValue? ⟨.text t, g.separate⟩).map fun ts =>
        add (if paths then ts.map fun t => if t = ("-" : Text) then t else expand t else ts) o
    | _ => none

end Literate.Cli
