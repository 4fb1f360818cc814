import Literate.Shell.Syntax

/-!
# Tokens of the shell

Scripts are made of words, operators and the ends of lines. A word is a keyword only where a command can begin, so it is
the grammar that decides which words are keywords: `Token.asKeyword`.
-/

namespace Literate.Shell

open Text

/-- A token of a script. -/
inductive Token where
  | word (w : Word)
  /-- A redirection before its target, with its descriptor. -/
  | arrow (descriptor : Nat) (a : Arrow)
  /-- A redirection from a document before the word that ends it; tabs before its lines do not count if they are stripped. -/
  | document (descriptor : Nat) (isStripped : Bool)
  | newline
  /-- The end of the script. -/
  | done
  /-- An operator, by its text. -/
  | symbol (t : Text)
  | keyword (t : Text)

namespace Token

/-- How a token is named in messages. -/
def name : Token → Text
  | word _ => "word"
  | arrow _ _ => "redirection"
  | document _ _ => "redirection"
  | newline => "newline"
  | done => "end of file"
  | symbol t => "\"" ++ t ++ "\""
  | keyword t => "\"" ++ t ++ "\""

/-- The words that are keywords where a command can begin. -/
def keywords : List Text :=
  ["!", "case", "do", "done", "elif", "else", "esac", "fi", "for", "if", "in", "then", "until", "while", "\x7b", "\x7d"]

/-- The keyword that a token is where keywords can stand. -/
def asKeyword : Token → Token
  | word w =>
    match Word.bare? w with
    | some t => if keywords.contains t then keyword t else word w
    | none => word w
  | t => t

/-- The keywords and operators that end a list of commands. -/
def endings : List Text := [")", ";;", "do", "done", "elif", "else", "esac", "fi", "then", "\x7d"]

/-- Whether a list of commands ends before a token. -/
def endsList : Token → Bool
  | done => true
  | symbol t => endings.contains t
  | keyword t => endings.contains t
  | _ => false

/-- Whether a token is an operator. -/
def isSymbol (s : Text) : Token → Bool
  | symbol t => t = s
  | _ => false

/-- Whether a token is a keyword. -/
def isKeyword (s : Text) : Token → Bool
  | keyword t => t = s
  | _ => false

end Token

/-- What is wrong with a script, and on which line. -/
structure Complaint where
  line : Nat
  message : Text

/-- A document that a line asks for and that stands below that line. -/
structure Wanted where
  number : Nat
  /-- The line that ends the document. -/
  mark : Text
  /-- Whether the document is taken as it stands. -/
  isRaw : Bool
  isStripped : Bool

/-- A script in the middle of being read. -/
structure Source where
  rest : Text
  line : Nat := 1
  /-- A token that was read too early. -/
  pushed : Option Token := none
  wanted : List Wanted := []
  /-- The documents by their number. -/
  documents : List Word := []

/-- A step of reading. -/
abbrev Reading := StateT Source (Except Complaint)

namespace Reading

/-- Gives up. -/
def complain {α : Type} (message : Text) : Reading α := do throw ⟨(← get).line, message⟩

/-- Gives up at a token that cannot stand where it stands. -/
def unexpected {α : Type} (t : Token) (expected : Text := []) : Reading α :=
  complain (t.name ++ " unexpected" ++ onlyIf (expected ≠ []) (" (expecting " ++ expected ++ ")"))

/-- The text after line ends that are hidden behind a backslash, and its line. -/
def afterJoins : Text → Nat → Text × Nat
  | b :: c :: rest, line =>
    if b = byte '\\' ∧ c = byte '\n' then afterJoins rest (line + 1) else (b :: c :: rest, line)
  | t, line => (t, line)

/-- The text that is left. -/
def ahead : Reading Text := do
  let s ← get
  let (rest, line) := afterJoins s.rest s.line
  set { s with rest, line }
  return rest

/-- Passes over bytes. -/
def skip (n : Nat) : Reading Unit :=
  modify fun s => { s with rest := s.rest.drop n, line := s.line + (s.rest.take n).count (byte '\n') }

/-- Passes over the bytes of a class and gives them. -/
def span (p : UInt8 → Bool) : Reading Text := do
  let t := (← ahead).takeWhile p
  skip t.length
  return t

/-- Keeps a token for the next reader. -/
def push (t : Token) : Reading Unit := modify fun s => { s with pushed := some t }

end Reading

end Literate.Shell
