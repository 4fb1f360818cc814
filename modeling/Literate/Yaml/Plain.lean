import Literate.Datum
import Literate.Word
import Literate.Yaml.Scalar

/-!
# Plain scalars

What a scalar without quotes stands for: nothing, a truth value, a number, or the text that it is.
-/

namespace Literate.Yaml

open Text

/-- The words for infinite numbers and for what is no number, with their bits. -/
def specialWords : List (String × UInt64) :=
  [(".inf", 0x7FF0000000000000), (".Inf", 0x7FF0000000000000), (".INF", 0x7FF0000000000000),
   ("-.inf", 0xFFF0000000000000), ("-.Inf", 0xFFF0000000000000), ("-.INF", 0xFFF0000000000000),
   (".nan", 0x7FF8000000000001), (".NaN", 0x7FF8000000000001), (".NAN", 0x7FF8000000000001)]

/-- The datum of a number. An integer beyond 64 bits stays a text. -/
def Numeral.datum (t : Text) : Numeral → Datum
  | .int n => if Word.fits n ∨ (0 ≤ n ∧ n < Word.count) then .int n else .text t
  | .float negative whole fraction exponent =>
    let x := Decimal.toFloat ((digits? 10 (whole ++ fraction)).getD 0) (exponent - fraction.length)
    if x.isFinite then .float (if negative then -x else x).toBits else .text t

/-- What a plain scalar stands for. -/
def plain (t : Text) : Datum :=
  if nullWords.any fun w => ofString w = t then .null
  else if boolWords.any fun w => ofString w = t then .bool (t.head?.any fun b => b = byte 't' || b = byte 'T')
  else match specialWords.find? fun (w, _) => ofString w = t with
    | some (_, bits) => .float bits
    | none => ((numeral? t).map (Numeral.datum t)).getD (.text t)

/-- Whether a plain scalar stands for something else than the text that it is. -/
def isTyped (t : Text) : Bool :=
  match plain t with
  | .text _ => false
  | _ => true

end Literate.Yaml
