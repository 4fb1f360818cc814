import Literate.Text.Quoted
import Literate.Text.Replace
import Literate.Yaml.Timestamp

/-!
# Plain and quoted scalars

A text is written plainly if a reader takes it for the same text, and between quotes otherwise: `Yaml.needsQuotes` says
when. Words for truth values of older readers count, numbers with an exponent and no point do not.
-/

namespace Literate.Yaml

open Text

/-! ## Numbers -/

/-- A number as a reader understands it. -/
inductive Numeral where
  | int (n : Int)
  /-- Digits before and after the point, and the exponent. -/
  | float (negative : Bool) (whole fraction : Text) (exponent : Int)

/-- A number with a point: digits on at least one side of it, and an optional exponent. -/
def decimal? (negative : Bool) (t : Text) : Option Numeral := do
  let whole := t.takeWhile isDigit
  let rest ← after? '.' (t.drop whole.length)
  let fraction := rest.takeWhile isDigit
  if whole = [] ∧ fraction = [] then none
  else match rest.drop fraction.length with
    | [] => some (.float negative whole fraction 0)
    | e :: rest =>
      if e = byte 'e' ∨ e = byte 'E' then
        match rest with
        | [] => none
        | s :: ds =>
          if s = byte '-' then (digits? 10 ds).map fun n => .float negative whole fraction (-(n : Int))
          else if s = byte '+' then (digits? 10 ds).map fun n => .float negative whole fraction n
          else (digits? 10 rest).map fun n => .float negative whole fraction n
      else none

/-- The number that a text is read as. Underscores do not count, and a leading zero makes a number octal. -/
def numeral? (t : Text) : Option Numeral :=
  let points := t.count (byte '.')
  let negative := startsWith t "-"
  let dropSign := fun (c : Char) (t : Text) => (after? c t).getD t
  let body := (dropSign '-' (dropSign '+' t)).filter (· ≠ byte '_')
  let integer := fun (base : Nat) (t : Text) => (digits? base t).map fun n => Numeral.int (if negative then -n else n)
  if startsWith t "_" ∨ 1 < points then none
  else if startsWith body "0x" then integer 16 (body.drop 2)
  else if startsWith body "0o" then integer 8 (body.drop 2)
  else if startsWith body "0b" then integer 2 (body.drop 2)
  else if startsWith body "0" ∧ 1 < body.length ∧ points = 0 then integer 8 body
  else if points = 1 then decimal? negative body
  else integer 10 body

/-! ## Quotes -/

/-- The words that a reader takes for nothing. -/
def nullWords : List String := ["null", "Null", "NULL", "~"]

/-- The words that a reader takes for a truth value. -/
def boolWords : List String := ["false", "False", "FALSE", "true", "True", "TRUE"]

/-- The words that older readers take for a truth value. -/
def oldBoolWords : List String :=
  ["y", "Y", "yes", "Yes", "YES", "n", "N", "no", "No", "NO", "on", "On", "ON", "off", "Off", "OFF"]

/-- The bytes that a plain text cannot begin with. -/
def indicators : Text := ofString "*&[\x7b\x7d],!|>%'\"@ " ++ [96]

/-- Whether a text has one of two marks, or a colon or a hyphen before a space. -/
def hasMark (t : Text) : Bool :=
  t.contains (byte '#') || t.contains (byte '\\') || includes t ": " || includes t "- "

/-- Whether a text is written between quotes. -/
def needsQuotes (t : Text) : Bool :=
  t = [] || t = ("-" : Text) || (nullWords ++ boolWords ++ oldBoolWords).any (fun w => ofString w = t) ||
    (numeral? t).isSome || t.head?.any (indicators.contains ·) ||
    t.getLast?.any (fun b => b = byte ':' || b = byte ' ') || isTimestamp t || hasMark t

/-- A text as a scalar. -/
def scalar (t : Text) : Text := if needsQuotes t then quote t else t

/-! ## Entries -/

/-- The line end of a text: carriage returns count where they are more common than line feeds, and pairs of both where there
is nothing else. -/
def lineEnd (t : Text) : Text :=
  let feeds := t.count (byte '\n')
  let returns := t.count (byte '\r')
  let pairs := (splitOn t "\r\n" none).length - 1
  if feeds = pairs ∧ returns = pairs then ofString "\r\n"
  else if feeds < returns then ofString "\r"
  else ofString "\n"

/-- A text without another one at its end. -/
def withoutEnd (t ending : Text) : Text := if endsWith t ending then t.take (t.length - ending.length) else t

/-- A text as the value of a key at the start of a line. Several lines that need no quotes are a literal block. -/
def value (t : Text) : Text :=
  let ending := lineEnd t
  if needsQuotes t ∨ !includes t ending then scalar t
  else
    let lines : List Text := (splitOn t ending none).map ("  " ++ ·)
    let head := if endsWith t (ending ++ ending) then "|+" else if endsWith t ending then "|" else "|-"
    head ++ ending ++ withoutEnd (withoutEnd (join ending lines) (ending ++ "  ")) "  "

end Literate.Yaml
