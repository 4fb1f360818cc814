import Literate.Element

/-!
# Directives

A directive is a line that begins with the marker and a keyword. Keywords of two words are joined by an underscore or a
hyphen, and are compared up to case, as are the marker and the tags of regions. What follows the keyword, without the
blanks around it, are the arguments.

* `Grammar.match?` says whether a line is a given directive, and with which arguments.
* `Grammar.classify` is the first directive of `Directive.table` that a line is.
-/

namespace Literate

open Text

/-- A line after continuations are folded: its content, its line ending, and where it begins. -/
structure LogicalLine where
  body : Text
  terminator : Text
  position : Position

/-- The line with its ending. -/
def LogicalLine.text (l : LogicalLine) : Text := l.body ++ l.terminator

/-- The directives that are known inside a region. -/
inductive Directive where
  | beginRegion
  | endRegion
  | includeFile
  | beginGroup (kind : Kind)
  | endGroup (kind : Kind)
  | use (kind : Kind)
  | display (kind : Kind)
  | output (kind : Kind)
  | pipe (kind : Kind)
  | includeCode
  | print
deriving DecidableEq, Repr

namespace Directive

/-- Every directive, in the order in which a line is compared with them. -/
def table : List Directive :=
  [beginRegion, endRegion, includeFile, beginGroup .stream, endGroup .stream, beginGroup .chunk, endGroup .chunk,
   use .chunk, use .stream, display .chunk, display .stream, output .chunk, output .stream, pipe .chunk, pipe .stream,
   includeCode, print]

/-- The keyword of a directive in words. The regions have none: their second word is a tag. -/
def words : Directive → List Text
  | beginRegion => ["begin"]
  | endRegion => ["end"]
  | includeFile => ["include"]
  | beginGroup k => ["begin", k.text]
  | endGroup k => ["end", k.text]
  | use k => ["use", k.text]
  | display k => ["display", k.text]
  | output k => ["output", k.text]
  | pipe k => ["pipe", k.text]
  | includeCode => ["include", "code"]
  | print => ["print"]

/-- The name of a directive. -/
def label : Directive → Text
  | beginRegion => "begin region"
  | endRegion => "end region"
  | d => join "_" d.words

end Directive

/-! ## Recognition -/

/-- What a directive looks like: the marker it begins with, and the tags of regions. -/
structure Grammar where
  marker : Text
  tags : List Text

/-- What follows one byte of a class. -/
def dropByte? (p : UInt8 → Bool) : Text → Option Text
  | [] => none
  | b :: rest => if p b then some rest else none

/-- Whether a byte joins the words of a keyword. -/
def isJoiner (b : UInt8) : Bool := b == byte '_' || b == byte '-'

/-- What follows words joined by an underscore or a hyphen. -/
def dropWords? : (words : List Text) → Text → Option Text
  | [], t => some t
  | [w], t => dropFold? (chars w) t
  | w :: ws, t => (dropFold? (chars w) t).bind fun t => (dropByte? isJoiner t).bind (dropWords? ws)

/-- Whether a text is empty or begins with a blank. -/
def isDetached : Text → Bool
  | [] => true
  | b :: _ => isBlank b

namespace Grammar

variable (g : Grammar)

/-- What follows the marker. -/
def dropMarker? (t : Text) : Option Text := dropFold? (chars g.marker) t

/-- The arguments of a line that is the directive with these words. -/
def keyword? (words : List Text) (body : Text) : Option Text :=
  (g.dropMarker? body).bind fun t => (dropWords? words t).bind fun rest =>
    if isDetached rest then some (trimBlank rest) else none

/-- Whether a line begins or ends a region: the verb, a joiner or a space, a tag, and anything after a blank. -/
def isRegion (verb body : Text) : Bool :=
  match (g.dropMarker? body).bind (dropFold? (chars verb)) with
  | none => false
  | some t =>
    match dropByte? (fun b => isJoiner b || b == byte ' ') t with
    | none => false
    | some t => g.tags.any fun tag => ((dropFold? (chars tag) t).map isDetached).getD false

/-- Whether a line begins a region. -/
def isBegin (body : Text) : Bool := g.isRegion "begin" body

/-- Whether a line ends a region. -/
def isEnd (body : Text) : Bool := g.isRegion "end" body

/-- What the print directive prints: all that follows one blank, line ending included. -/
def printed? (text : Text) : Option Text :=
  (g.dropMarker? text).bind fun t => (dropFold? (chars "print") t).bind (dropByte? isBlank)

/-- The arguments of a line that is a given directive. -/
def match? (d : Directive) (l : LogicalLine) : Option Text :=
  match d with
  | .beginRegion => if g.isBegin l.body then some [] else none
  | .endRegion => if g.isEnd l.body then some [] else none
  | .print => g.printed? l.text
  | d => g.keyword? d.words l.body

/-- The first directive of a table that a line is, with its arguments. -/
def classifyBy (table : List Directive) (l : LogicalLine) : Option (Directive × Text) :=
  table.findSome? fun d => (g.match? d l).map (d, ·)

/-- The directive that a line is, with its arguments. -/
def classify (l : LogicalLine) : Option (Directive × Text) := g.classifyBy Directive.table l

end Grammar

/-! ## Arguments -/

/-- The name and the command of a pipe: what stands before and after the first blanks. -/
def pipeArguments? (args : Text) : Option (Text × Text) :=
  let name := args.takeWhile fun b => !isBlank b
  let command := (args.drop name.length).dropWhile isBlank
  if name = [] ∨ command = [] then none else some (name, command)

/-- Whether a tag is a word of ASCII letters, digits and underscores. -/
def isWord (tag : Text) : Bool :=
  !tag.isEmpty && tag.all fun b =>
    (48 ≤ b && b ≤ 57) || (65 ≤ b && b ≤ 90) || (97 ≤ b && b ≤ 122) || b == byte '_'

/-- Whether a text can be the tag of a region: a word that is not the name of a namespace. -/
def isTag (tag : Text) : Bool :=
  isWord tag && toLower tag != Kind.chunk.text && toLower tag != Kind.stream.text

/-- Whether a text can be the marker: not empty, and without white space. -/
def isMarker (marker : Text) : Bool := !marker.isEmpty && !hasSpace marker

end Literate
