import Literate.Unicode.Category.Letter
import Literate.Unicode.Category.Mark
import Literate.Unicode.Category.Number
import Literate.Unicode.Category.Other
import Literate.Unicode.Category.Punctuation
import Literate.Unicode.Category.Sign

/-!
# General categories

Every character has one of thirty categories, which are named by two letters; the first letter names the union of the
categories that begin with it. A character in none of the tables is unassigned.
-/

namespace Literate.Unicode

/-- The tables of the categories, by their names. -/
def categoryTables : List (String × Table) :=
  [("Lu", upperLetters), ("Ll", lowerLetters), ("Lt", titleLetters), ("Lm", modifierLetters), ("Lo", otherLetters),
   ("Mn", nonspacingMarks), ("Mc", spacingMarks), ("Me", enclosingMarks),
   ("Nd", decimalNumbers), ("Nl", letterNumbers), ("No", otherNumbers),
   ("Pc", connectors), ("Pd", dashes), ("Ps", opening), ("Pe", closing), ("Pi", initialQuotes), ("Pf", finalQuotes),
   ("Po", otherPunctuation),
   ("Sm", mathSymbols), ("Sc", currencySymbols), ("Sk", modifierSymbols), ("So", otherSymbols),
   ("Zs", spaceSeparators), ("Zl", lineSeparators), ("Zp", paragraphSeparators),
   ("Cc", controls), ("Cf", formats), ("Co", privateUse)]

/-- Whether a character is in one of the tables. -/
def isIn (tables : List Table) (c : Char) : Bool := tables.any (·.contains c.toNat)

/-- Whether a character is unassigned. -/
def isUnassigned (c : Char) : Bool := !isIn (categoryTables.map (·.2)) c

/-- The tables of letters. -/
def letterTables : List Table := [upperLetters, lowerLetters, titleLetters, modifierLetters, otherLetters]

/-- The tables of characters that are shown: letters, marks, numbers, punctuation and symbols. -/
def printableTables : List Table := (categoryTables.take 22).map (·.2)

/-- Whether a character is a letter. -/
def isLetter (c : Char) : Bool := if c.toNat < 0x80 then c.isAlpha else isIn letterTables c

/-- Whether a character is a decimal digit. -/
def isDigit (c : Char) : Bool := if c.toNat < 0x80 then c.isDigit else decimalNumbers.contains c.toNat

/-- Whether a character is a letter in upper case. -/
def isUpper (c : Char) : Bool := if c.toNat < 0x80 then c.isUpper else upperLetters.contains c.toNat

/-- Whether a character is a letter in lower case. -/
def isLower (c : Char) : Bool := if c.toNat < 0x80 then c.isLower else lowerLetters.contains c.toNat

/-- Whether a character is shown as itself in quoted text. Of the spaces only U+0020 is. -/
def isPrintable (c : Char) : Bool :=
  if c.toNat < 0x80 then 0x20 ≤ c.toNat && c.toNat < 0x7F else isIn printableTables c

end Literate.Unicode
