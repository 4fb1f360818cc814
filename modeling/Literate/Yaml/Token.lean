import Literate.Yaml.Plain

/-!
# Tokens of YAML

The text of a document is cut into scalars and marks. Every token has its place, since lines and columns tell mappings and
sequences apart, and its source, since a key has to stand on one line.
-/

namespace Literate.Yaml

open Text

/-- A place in a text: its line and its column, both counted from one. -/
structure Place where
  line : Nat
  column : Nat
deriving DecidableEq, Repr

/-- The kinds of tokens. -/
inductive Kind where
  /-- A plain scalar that is a text, or the content of a block. -/
  | string
  /-- A plain scalar that stands for nothing, a truth value or a number. -/
  | typed
  | quoted
  /-- The head of a block whose line ends count. -/
  | literal
  /-- The head of a block whose lines are joined. -/
  | folded
  | tag
  | anchor
  | reference
  | mergeKey
  | comment
  | dash
  | question
  | colon
  | comma
  | openBrace
  | closeBrace
  | openBracket
  | closeBracket
  | directive
  | documentStart
  | documentEnd
deriving DecidableEq, Repr

/-- Whether tokens of a kind can be values on their own. -/
def Kind.isScalar (k : Kind) : Bool := k ∈ [anchor, reference, literal, folded, typed, string, quoted]

/-- Whether tokens of a kind can stand before the colon of a key. -/
def Kind.isKey (k : Kind) : Bool :=
  !(k ∈ [directive, documentStart, documentEnd, comma, openBrace, colon, closeBrace, openBracket, dash])

/-- A token of a document. -/
structure Token where
  kind : Kind
  value : Text
  /-- The characters that the token is read from, with white space before it. -/
  source : List Char
  place : Place
deriving Repr

/-- What a scalar token stands for. -/
def Token.datum (t : Token) : Datum := if t.kind = .typed then plain t.value else .text t.value

/-- The tags with a meaning. -/
def knownTags : List String :=
  ["!!int", "!!float", "!!null", "!!seq", "!!map", "!!str", "!!binary", "!!omap", "!!set", "!!timestamp", "!!bool",
   "!!merge"]

/-- The tags of scalars. -/
def scalarTags : List String := ["!!int", "!!float", "!!str", "!!binary", "!!timestamp", "!!bool", "!!null"]

/-- Whether a tag is one of some. -/
def isTagOf (tags : List String) (tag : Text) : Bool := tags.any fun t => ofString t = tag

/-! ## Characters -/

/-- Whether a character ends a line. -/
def isBreak (c : Char) : Bool := c = '\n' || c = '\r'

/-- Whether a character is a blank within a line. -/
def isBlank (c : Char) : Bool := c = ' ' || c = '\t'

/-- Whether a text begins with a line that separates documents: three hyphens or three points, and then at least one
character of white space if anything follows. -/
def atSeparator (cs : List Char) : Bool :=
  match cs with
  | a :: b :: c :: rest => ((a, b, c) = ('-', '-', '-') || (a, b, c) = ('.', '.', '.')) &&
      rest.head?.all fun d => isBlank d || isBreak d
  | _ => false

end Literate.Yaml
