import Literate.Log.Value
import Literate.Text.Case
import Literate.Text.Digits
import Literate.Text.Space
import Literate.Word

/-!
# Levels and formats

The names of the five levels and the two formats. A level can also be given as a name with an offset, such as `warn+2`.
-/

namespace Literate.Log

open Text

/-- The form of log output. The forms are numbered; a number without a meaning is an `other` form. -/
inductive Format where
  | text
  | json
  | other (code : Int)
deriving DecidableEq, Repr

namespace Format

/-- The form with a number. -/
def ofCode (n : Int) : Format := if n = 0 then text else if n = 1 then json else other n

/-- The name of a form. -/
def name : Format → Text
  | text => "text"
  | json => "json"
  | other n => "Format(" ++ ofInt n ++ ")"

/-- The forms that have a name. -/
def all : List Format := [text, json]

/-- Reads the name of a form; what is no such name stands for text. -/
def parse (t : Text) : Format := if toLower (trimSpace t) = ("json" : Text) then json else text

end Format

namespace Level

/-- The levels that have a name. -/
def all : List Level := [trace, debug, info, warn, error]

/-- The name of a level. -/
def name (l : Level) : Text :=
  if l = trace then "trace"
  else if l = debug then "debug"
  else if l = info then "info"
  else if l = warn then "warn"
  else if l = error then "error"
  else "Level(" ++ ofInt l.severity ++ ")"

/-- The value of decimal digits after a sign, if it fits in 64 bits. -/
def offset? : Text → Option Int
  | [] => none
  | s :: rest =>
    (Text.digits? 10 rest).bind fun n =>
      Word.ofInt? (if s = byte '-' then -(n : Int) else n)

/-- The level of a name without offset. -/
def ofName? (t : Text) : Option Level :=
  let word := toUpper t
  if word = ("DEBUG" : Text) then some debug
  else if word = ("INFO" : Text) then some info
  else if word = ("WARN" : Text) then some warn
  else if word = ("ERROR" : Text) then some error
  else none

/-- The severity of a level as a number of 64 bits. -/
def ofSeverity (n : Int) : Level := ⟨Word.wrap n⟩

/-- Reads a level; what is none stands for `info`. -/
def parse (t : Text) : Level :=
  let t := trimSpace t
  if foldEq t "trace" then trace
  else
    let name := t.takeWhile fun b => b != byte '+' && b != byte '-'
    match t.drop name.length with
    | [] => (ofName? name).getD info
    | sign =>
      match ofName? name, offset? sign with
      | some l, some n => ofSeverity (l.severity + n)
      | _, _ => info

end Level

end Literate.Log
