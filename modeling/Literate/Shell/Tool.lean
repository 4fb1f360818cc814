import Literate.Disk
import Literate.Shell.Syntax

/-!
# Tools

A tool is a program that scripts call. It has a name and arguments, reads an input and the disk, writes to two outputs, and
ends with a status. The arguments of a tool begin with options: letters after one hyphen, or names after two.
-/

namespace Literate.Shell

open Text

/-- The call of a tool. -/
structure Call where
  name : Text
  args : List Text
  disk : Disk
  input : Text
  /-- The file that the input comes from, and how much of it has been read. -/
  inputFile : Option (Location × Nat) := none
  /-- The file that the output goes to. -/
  outputFile : Option Location := none

/-- What a tool leaves behind. -/
structure Report where
  /-- What is written in turn to the first or to the second output. -/
  writes : List (Nat × Text) := []
  status : Nat := 0
  /-- Whether the input was read. -/
  reads : Bool := false
  /-- A file that was written. -/
  file : Option (Location × Text) := none

/-- The wording of a trouble in messages of tools. -/
def troubleText : Trouble → Text
  | .missing => "No such file or directory"
  | .notFolder => "Not a directory"
  | .isFolder => "Is a directory"
  | .tooManyLinks => "Too many levels of symbolic links"
  | .invalid => "Invalid argument"
  | .nameTooLong => "File name too long"
  | .forbidden => "Permission denied"
  | .noSpace => "No space left on device"

/-! ## Names in messages -/

/-- The bytes that make a name be shown between quotes. -/
def strikingBytes : Text := " !\"$&()*;<=>[^`|?'\\:"

/-- Whether a byte is a printable ASCII character. -/
def isPrintable (b : UInt8) : Bool := 32 ≤ b && b ≤ 126

/-- Whether a name is shown between quotes. -/
def isStriking (t : Text) : Bool :=
  t.isEmpty || t.any (fun b => strikingBytes.contains b || !isPrintable b) || startsWith t "#" || startsWith t "~" ||
    t = ("\x7b" : Text) || t = ("\x7d" : Text)

/-- The bytes that mean the same between single and between double quotes. -/
def mildBytes : Text := " %+,-./:]_@'"

/-- Whether double quotes can stand around a name as it is. -/
def isMild (t : Text) : Bool :=
  (t.drop 1).all (fun b => isNameByte b || mildBytes.contains b) &&
    t.head?.all fun b => isNameByte b || mildBytes.contains b || b = byte '#' || b = byte '~'

/-- A byte that cannot be shown itself. -/
def shownByte (b : UInt8) : Text :=
  if b = 7 then "\\a"
  else if b = 8 then "\\b"
  else if b = 9 then "\\t"
  else if b = 10 then "\\n"
  else if b = 11 then "\\v"
  else if b = 12 then "\\f"
  else if b = 13 then "\\r"
  else [byte '\\', byte '0' + b / 64, byte '0' + b / 8 % 8, byte '0' + b % 8]

/-- The inside of a name between single quotes; `isEscaping` says that the bytes before were none that can be shown. -/
def shownInside (isEscaping : Bool) : Text → Text
  | [] => []
  | b :: rest =>
    if !isPrintable b then onlyIf (!isEscaping) "'$'" ++ shownByte b ++ shownInside true rest
    else if b = byte '\'' then "'\\''" ++ shownInside false rest
    else onlyIf isEscaping "''" ++ b :: shownInside false rest

/-- A name as messages show it: between quotes if a shell would not take it for one word. -/
def shown (t : Text) : Text :=
  if !isStriking t then t
  else if t.contains (byte '\'') ∧ isMild t then "\"" ++ t ++ "\""
  else "'" ++ shownInside false t ++ "'"

/-- An argument between quotes as messages show it. -/
def shownArgument (t : Text) : Text :=
  "'" ++ t.flatMap (fun b =>
    if b = byte '\'' ∨ b = byte '\\' then [byte '\\', b] else if isPrintable b then [b] else shownByte b) ++ "'"

namespace Call

/-- A message of a tool. -/
def message (c : Call) (t : Text) : Text := c.name ++ ": " ++ t ++ "\n"

/-- The hint that follows messages about arguments. -/
def hint (c : Call) : Text := "Try '" ++ c.name ++ " --help' for more information.\n"

/-- The report of a tool that cannot do anything with its arguments. -/
def refuse (c : Call) (status : Nat) (t : Text) : Report := { writes := [(2, c.message t ++ c.hint)], status }

end Call

/-! ## Options -/

/-- An option that a tool knows. -/
structure Choice where
  letter : UInt8
  name : Text
  takesValue : Bool := false

/-- An option that was given, with its value. -/
structure Given where
  letter : UInt8
  value : Text
deriving DecidableEq

/-- Options and operands in the order in which they were given. -/
structure Arguments where
  options : List Given := []
  operands : List Text := []

namespace Arguments

/-- Whether an option is given. -/
def has (a : Arguments) (c : Char) : Bool := a.options.any (·.letter = byte c)

/-- The last value of an option. -/
def value? (a : Arguments) (c : Char) : Option Text := (a.options.reverse.find? (·.letter = byte c)).map (·.value)

/-- The letters after a hyphen, and whether the next argument is the value of the last one. -/
def ofLetters (choices : List Choice) : Text → Except Text (List Given × Option UInt8)
  | [] => .ok ([], none)
  | b :: rest =>
    match choices.find? (·.letter = b) with
    | none => .error ("invalid option -- '" ++ [b] ++ "'")
    | some c =>
      if c.takesValue then .ok (if rest = [] then ([], some b) else ([⟨b, rest⟩], none))
      else (ofLetters choices rest).map fun (gs, next) => (⟨b, []⟩ :: gs, next)

/-- The option of a name or of the start of one. -/
def ofName (choices : List Choice) (t : Text) : Except Text Choice :=
  let found := choices.filter fun c => c.name ≠ [] && startsWith c.name t
  match choices.find? fun c => c.name ≠ [] && c.name = t, found with
  | some c, _ => .ok c
  | none, [c] => .ok c
  | none, [] => .error ("unrecognized option '--" ++ t ++ "'")
  | none, cs =>
    let names : Text := cs.flatMap fun c => ofString " '--" ++ c.name ++ ofString "'"
    .error ("option '--" ++ t ++ "' is ambiguous; possibilities:" ++ names)

/-- The options and operands of a sequence of arguments. With `mixed`, options can stand after operands. -/
def read? (choices : List Choice) (mixed : Bool) : List Text → Except Text Arguments
  | [] => .ok {}
  | a :: rest =>
    if a = ("--" : Text) then .ok { operands := rest }
    else if startsWith a "--" then
      let (name, value) := match cut (byte '=') (a.drop 2) with
        | some (n, v) => (n, some v)
        | none => (a.drop 2, none)
      match ofName choices name with
      | .error m => .error (if startsWith m "unrecognized" then "unrecognized option '" ++ a ++ "'" else m)
      | .ok c =>
        match c.takesValue, value with
        | false, some _ => .error ("option '--" ++ c.name ++ "' doesn't allow an argument")
        | true, none =>
          match rest with
          | [] => .error ("option '--" ++ c.name ++ "' requires an argument")
          | v :: rest => (read? choices mixed rest).map fun g => { g with options := ⟨c.letter, v⟩ :: g.options }
        | _, _ =>
          (read? choices mixed rest).map fun g => { g with options := ⟨c.letter, value.getD []⟩ :: g.options }
    else if startsWith a "-" ∧ a.length ≠ 1 then
      match ofLetters choices (a.drop 1) with
      | .error m => .error m
      | .ok (gs, none) => (read? choices mixed rest).map fun g => { g with options := gs ++ g.options }
      | .ok (gs, some b) =>
        match rest with
        | [] => .error ("option requires an argument -- '" ++ [b] ++ "'")
        | v :: rest =>
          (read? choices mixed rest).map fun g => { g with options := gs ++ ⟨b, v⟩ :: g.options }
    else if mixed then (read? choices mixed rest).map fun g => { g with operands := a :: g.operands }
    else .ok { operands := a :: rest }

end Arguments

/-! ## Inputs -/

/-- Whether an operand stands for the input. -/
def isInput (path : Text) : Bool := path = ("-" : Text) || path = ("/dev/stdin" : Text) || path = ("/dev/fd/0" : Text)

/-- The text of a file. -/
def fileText (d : Disk) (path : Text) : Except Trouble Text :=
  match d.access path with
  | .error t => .error t
  | .ok l =>
    match d.text? l with
    | some t => .ok t
    | none => .error .isFolder

/-- An operand with the text that is read from it. -/
structure Read where
  path : Text
  text : Except Trouble Text

/-- What is read from the operands, in order; the input is read if there are none. It can be read only once. -/
def Call.reads (c : Call) (paths : List Text) : List Read :=
  ((if paths = [] then [[byte '-']] else paths).foldl (fun (rs, input) p =>
    if isInput p then (rs ++ [⟨p, .ok input⟩], []) else (rs ++ [⟨p, fileText c.disk p⟩], input))
    (([] : List Read), c.input)).1

/-- Whether the operands make a tool read its input. -/
def readsInput (paths : List Text) : Bool := paths.isEmpty || paths.any isInput

end Literate.Shell
