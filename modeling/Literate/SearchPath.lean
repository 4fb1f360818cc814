import Literate.Disk

/-!
# Search paths

The search path of included files is a list of folders: those given for a run, and then those of a list whose items are
separated by colons.
-/

namespace Literate

open Text

/-- The items of a list of folders: those of the last argument first, and empty ones and repeats left out. -/
def searchItems (list : Text) (arguments : List Text) : List Text :=
  ((arguments.reverse ++ [list]).flatMap (pieces (byte ':'))).foldl
    (fun (items : List Text) item => if item = [] ∨ item ∈ items then items else items ++ [item]) []

/-- The items that are folders. -/
def searchPath (d : Disk) (list : Text) (arguments : List Text) : List Text :=
  (searchItems list arguments).filter d.hasFolder

end Literate
