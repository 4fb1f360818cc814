import Literate.Regex.Basic
import Literate.Unicode.Category
import Literate.Unicode.Script

/-!
# Properties in regular expressions

The sets that `\p` names: categories by their letters or by their words, scripts, and a few others. Names are compared
without regard to case, underscores, hyphens and spaces.
-/

namespace Literate.Regex

/-- The form in which names of properties are compared: without separators and in lower case. -/
def plainName (name : List Char) : String :=
  String.ofList ((name.filter fun c => c != '_' && c != '-' && c != ' ').map Char.toLower)

/-- The words for categories, and their letters. -/
def categoryWords : List (String × String) :=
  [("other", "C"), ("control", "Cc"), ("cntrl", "Cc"), ("format", "Cf"), ("unassigned", "Cn"), ("privateuse", "Co"),
   ("surrogate", "Cs"), ("letter", "L"), ("casedletter", "LC"), ("lowercaseletter", "Ll"), ("modifierletter", "Lm"),
   ("otherletter", "Lo"), ("titlecaseletter", "Lt"), ("uppercaseletter", "Lu"), ("mark", "M"),
   ("combiningmark", "M"), ("spacingmark", "Mc"), ("enclosingmark", "Me"), ("nonspacingmark", "Mn"), ("number", "N"),
   ("decimalnumber", "Nd"), ("digit", "Nd"), ("letternumber", "Nl"), ("othernumber", "No"), ("punctuation", "P"),
   ("punct", "P"), ("connectorpunctuation", "Pc"), ("dashpunctuation", "Pd"), ("closepunctuation", "Pe"),
   ("finalpunctuation", "Pf"), ("initialpunctuation", "Pi"), ("otherpunctuation", "Po"), ("openpunctuation", "Ps"),
   ("symbol", "S"), ("currencysymbol", "Sc"), ("modifiersymbol", "Sk"), ("mathsymbol", "Sm"), ("othersymbol", "So"),
   ("separator", "Z"), ("lineseparator", "Zl"), ("paragraphseparator", "Zp"), ("spaceseparator", "Zs")]

/-- The tables of the categories whose names begin with a letter. -/
def categoriesUnder (letter : String) : List Unicode.Table :=
  (Unicode.categoryTables.filter fun t => t.1.startsWith letter).map (·.2)

/-- The characters of the categories with the given letters. No character is a surrogate. -/
def categorySet? (letters : String) : Option CharSet :=
  match letters with
  | "C" => some fun c => Unicode.isIn (categoriesUnder "C") c || Unicode.isUnassigned c
  | "Cn" => some Unicode.isUnassigned
  | "Cs" => some fun _ => false
  | "LC" => some (Unicode.isIn [Unicode.upperLetters, Unicode.lowerLetters, Unicode.titleLetters])
  | "L" | "M" | "N" | "P" | "S" | "Z" => some (Unicode.isIn (categoriesUnder letters))
  | _ => (Unicode.categoryTables.lookup letters).map fun t => Unicode.isIn [t]

/-- The letters of all categories. -/
def categoryLetters : List String :=
  ["C", "Cn", "Cs", "LC", "L", "M", "N", "P", "S", "Z"] ++ Unicode.categoryTables.map (·.1)

/-- The characters of a script. -/
def scriptSet? (name : String) : Option CharSet :=
  (Unicode.scripts.find? fun s => plainName s.1.toList == name).map fun s => Unicode.isIn [s.2]

/-- The characters that have a property. -/
def property? (name : List Char) : Option CharSet :=
  let plain := plainName name
  match plain with
  | "any" => some fun _ => true
  | "assigned" => some fun c => !Unicode.isUnassigned c
  | "ascii" => some (.range 0 127)
  | _ =>
    ((categoryLetters.find? fun l => l.toLower == plain).bind categorySet?).or <|
      (scriptSet? plain).or ((categoryWords.lookup plain).bind categorySet?)

end Literate.Regex
