import Literate.Text.Basic

/-!
# About this program

What the program says of itself.
-/

namespace Literate.About

/-- The name of the program, and of the folder of its configuration. -/
def name : Text := "litweb"

/-- What the program is. -/
def description : Text := "Literate documentation preprocessor"

/-- The version of the program. -/
def version : Text := "0.1.0"

/-- The variable of the environment that holds the search path of included files. -/
def pathVariable : Text := "LITWEB_PATH"

end Literate.About
