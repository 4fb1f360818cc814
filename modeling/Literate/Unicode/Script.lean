import Literate.Unicode.Script.AToF
import Literate.Unicode.Script.GToL
import Literate.Unicode.Script.MToR
import Literate.Unicode.Script.SToZ

/-!
# Scripts

The scripts in which characters are used, by their names.
-/

namespace Literate.Unicode

/-- The scripts and their code points. -/
def scripts : List (String × Table) := scriptsAToF ++ scriptsGToL ++ scriptsMToR ++ scriptsSToZ

end Literate.Unicode
