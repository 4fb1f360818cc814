import Literate.Text.Basic

/-!
# Paths

Slash-separated paths, read without looking at any disk: cleaning, joining and the directory of a path.
-/

namespace Literate.Path

open Text

/-- The byte that separates the components of a path. -/
def separator : UInt8 := byte '/'

/-- Whether a path begins at the root. -/
def isAbsolute (p : Text) : Bool := startsWith p "/"

/-- One more component after the components on a stack: `.` and the empty component change nothing, and `..` removes
the component before it if there is one to remove. -/
def pushComponent (rooted : Bool) (stack : List Text) (c : Text) : List Text :=
  if c = [] ∨ c = ("." : Text) then stack
  else if c = (".." : Text) then
    match stack with
    | [] => if rooted then [] else [c]
    | top :: rest => if top = (".." : Text) then c :: stack else rest
  else c :: stack

/-- The components of a path after `.`, `..` and empty components are worked off. -/
def components (p : Text) : List Text :=
  ((pieces separator p).foldl (pushComponent (isAbsolute p)) []).reverse

/-- The shortest path with the same meaning. -/
def clean (p : Text) : Text :=
  let body := join "/" (components p)
  if isAbsolute p then separator :: body
  else if body = [] then "." else body

/-- The non-empty elements joined by slashes and cleaned. -/
def joinAll (elements : List Text) : Text :=
  match elements.filter (· ≠ []) with
  | [] => []
  | es => clean (join "/" es)

/-- The path `p` below the directory `dir`. -/
def joinTwo (dir p : Text) : Text := joinAll [dir, p]

/-- The cleaned directory of a path: everything up to its last slash. -/
def directory (p : Text) : Text := clean (p.reverse.dropWhile (· ≠ separator)).reverse

end Literate.Path
