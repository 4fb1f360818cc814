import Literate.Text.Digits

/-!
# Commands of the shell

A word is a sequence of parts: bytes that stand for themselves, and expansions that are replaced by text when the command
is run. A command is a simple command, which is a sequence of words with redirections, or is made of further commands: a
pipeline, a list, a condition, a loop.
-/

namespace Literate.Shell

open Text

/-- Where a redirection leads. -/
inductive Arrow where
  /-- Output to a file, which is emptied first. -/
  | write
  /-- Output to the end of a file. -/
  | append
  /-- Input from a file. -/
  | read
  /-- Input from a file and output to it. -/
  | both
  /-- To where another descriptor leads. -/
  | copy
  /-- Input from the document of that number, which stands below the line. -/
  | document (number : Nat)
deriving DecidableEq

mutual

/-- A part of a word. -/
inductive Part where
  /-- Bytes outside of quotes. -/
  | bare (t : Text)
  /-- Bytes outside of quotes that stand between braces, where they can separate fields. -/
  | loose (t : Text)
  /-- Bytes between quotes. -/
  | quoted (t : Text)
  /-- The value of a parameter. -/
  | parameter (isQuoted : Bool) (name : Text) (form : Form)
  /-- What a command writes. -/
  | output (isQuoted : Bool) (c : Command)
  /-- The value of an arithmetic expression. -/
  | number (isQuoted : Bool) (w : List Part)
  /-- An expansion that makes no sense. -/
  | senseless

/-- What is made of the value of a parameter. A test with a colon takes an empty value for an absent one. -/
inductive Form where
  /-- The value itself. -/
  | value
  /-- Its length. -/
  | length
  /-- The word in place of an absent value. -/
  | fallback (colon : Bool) (w : List Part)
  /-- The word in place of an absent value, which the parameter has from then on. -/
  | assigned (colon : Bool) (w : List Part)
  /-- The value, which may not be absent; the word is the complaint. -/
  | demanded (colon : Bool) (w : List Part)
  /-- The word in place of a value that is not absent. -/
  | replaced (colon : Bool) (w : List Part)
  /-- The value without the shortest or longest end or start that a pattern matches. -/
  | trimmed (atEnd longest : Bool) (w : List Part)

/-- A redirection of a descriptor. -/
inductive Redirect where
  | mk (descriptor : Nat) (arrow : Arrow) (target : List Part)

/-- A command. -/
inductive Command where
  /-- No command at all. -/
  | nothing
  /-- A simple command on a line. -/
  | simple (line : Nat) (assignments : List (Text × List Part)) (words : List (List Part)) (redirects : List Redirect)
  /-- A command with redirections. -/
  | redirected (line : Nat) (c : Command) (redirects : List Redirect)
  /-- Commands of which each reads what the one before it writes. -/
  | pipeline (cs : List Command)
  /-- A command whose status is turned round. -/
  | negated (c : Command)
  /-- The second command follows a success of the first one. -/
  | andThen (a b : Command)
  /-- The second command follows a failure of the first one. -/
  | orElse (a b : Command)
  /-- One command after another. -/
  | sequence (a b : Command)
  /-- A command that nobody waits for. -/
  | background (c : Command)
  /-- A command that changes nothing in the shell itself. -/
  | subshell (c : Command)
  /-- A choice between two commands. -/
  | choice (test yes no : Command)
  /-- A command that is repeated as long as a test succeeds, or as long as it fails. -/
  | loop (whileFailing : Bool) (test body : Command)
  /-- A command for each word. -/
  | each (line : Nat) (name : Text) (words : List (List Part)) (body : Command)
  /-- The command of the first pattern that matches. -/
  | select (line : Nat) (word : List Part) (arms : List (List (List Part) × Command))
  /-- A command that is given a name. -/
  | define (name : Text) (body : Command)

end

/-- A word before its parts are expanded. -/
abbrev Word := List Part

namespace Word

/-- A part before the parts of a word; bytes of one kind stay together. -/
def cons (p : Part) (w : Word) : Word :=
  match p, w with
  | .bare s, .bare t :: rest => .bare (s ++ t) :: rest
  | .loose s, .loose t :: rest => .loose (s ++ t) :: rest
  | .quoted s, .quoted t :: rest => .quoted (s ++ t) :: rest
  | p, w => p :: w

/-- The text of a word that holds no quotes and no expansions. -/
def bare? : Word → Option Text
  | [.bare t] => some t
  | _ => none

/-- The text of a word without its quotes, as far as it stands in the word, and whether there were quotes. -/
def literal (w : Word) : Text × Bool :=
  (w.flatMap fun
    | .bare t | .loose t | .quoted t => t
    | _ => [],
   w.any fun
    | .bare _ | .loose _ => false
    | _ => true)

end Word

/-- Whether a byte begins a name. -/
def isNameStart (b : UInt8) : Bool :=
  (97 ≤ b && b ≤ 122) || (65 ≤ b && b ≤ 90) || b == 95

/-- Whether a byte continues a name. -/
def isNameByte (b : UInt8) : Bool := isNameStart b || isDigit b

/-- Whether a text is a name. -/
def isName : Text → Bool
  | [] => false
  | b :: rest => isNameStart b && rest.all isNameByte

end Literate.Shell
