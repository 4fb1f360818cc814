import Literate.Yaml.Block
import Literate.Yaml.Quoted

/-!
# Cutting a text into tokens

`tokens?` reads a text character by character. What a character means depends on the scalar before it, on the brackets
around it, and on the column of its line against the floor: the column of the last key or hyphen. Lines right of the floor
go on with the scalar before them, and other lines end it.
-/

namespace Literate.Yaml

open Text

/-! ## States -/

/-- Where the first character of a line stands. -/
inductive Shift where
  /-- Nothing is known yet. -/
  | level
  /-- Right of the floor. -/
  | up
  /-- Not right of the floor. -/
  | down
  /-- The character is not the first one of its line. -/
  | within
deriving DecidableEq, Repr

/-- What has been read of a text. -/
structure State where
  place : Place := ⟨1, 1⟩
  /-- The column of the last key or hyphen, or zero. -/
  floor : Nat := 0
  /-- The number of spaces at the start of the line. -/
  indent : Nat := 0
  /-- Whether only blanks have been read of the line. -/
  atStart : Bool := true
  shift : Shift := .level
  /-- Whether the name of an anchor or an alias is being read. -/
  inName : Bool := false
  /-- Whether a directive is being read. -/
  inDirective : Bool := false
  /-- The number of open brackets. -/
  brackets : Int := 0
  /-- The number of open braces. -/
  braces : Int := 0
  /-- Where the scalar begins that is being read, if it goes on after its first line. -/
  start : Option Place := none
  buffer : Buffer := {}
  block : Option Block := none
  /-- The tokens, the last one first. -/
  tokens : List Token := []
  /-- The character before. -/
  previous : Char := Char.ofNat 0
deriving Repr

namespace State

/-- The content of the scalar that is being read. -/
def content (s : State) : List Char := (s.block.map (·.chomp s.buffer.content)).getD s.buffer.content

/-- Whether a scalar is being read. -/
def isReading (s : State) : Bool := s.content ≠ []

/-- Whether a bracket or a brace is open. -/
def inFlow (s : State) : Bool := 0 < s.brackets || 0 < s.braces

/-- The kind of the last token. -/
def lastKind? (s : State) : Option Kind := s.tokens.head?.map (·.kind)

/-- The state some columns further on. -/
def advance (n : Nat) (s : State) : State := { s with place := { s.place with column := s.place.column + n } }

/-- The state at the start of the next line. -/
def nextLine (s : State) : State :=
  { s with
    place := ⟨s.place.line + 1, 1⟩, indent := 0, atStart := true, inName := false, inDirective := false }

/-- One more character of the source. -/
def note (c : Char) (s : State) : State := { s with buffer := s.buffer.note c }

/-- One more character of a plain scalar. -/
def read (c : Char) (s : State) : State := ({ s with buffer := (s.buffer.push c).note c }).advance 1

/-! ## Tokens -/

/-- The column of some characters in a text that has them; zero in one that has not. -/
def columnIn (part : List Char) (column : Nat) : List Char → Nat
  | [] => if part = [] then column else 0
  | c :: rest => if part.isPrefixOf (c :: rest) then column else columnIn part (column + 1) rest

/-- Where the scalar begins that is being read. -/
def scalarPlace (s : State) : Place :=
  s.start.getD <|
    let cs := s.buffer.pending.reverse
    if s.block.isSome then ⟨s.place.line - cs.countP isBreak, columnIn cs 1 s.buffer.source.reverse⟩
    else { s.place with column := s.place.column - cs.length }

/-- The kind of a scalar by its text and the token before it: after a tag without a meaning it is a text. -/
def scalarKind (s : State) (t : Text) : Kind :=
  let isText := match s.tokens.head? with
    | some last => last.kind = .tag && !isTagOf knownTags last.value
    | none => false
  if s.block.isSome || isText || !isTyped t then .string else .typed

/-- The token of the scalar that is being read, and the state after it. -/
def take (s : State) : Option Token × State :=
  if s.isReading then
    let t := ofChars s.content
    (some ⟨s.scalarKind t, t, s.buffer.source.reverse, s.scalarPlace⟩, { s with start := none, buffer := {} })
  else (none, { s with start := none, buffer := { s.buffer with spent := true } })

/-- The state after the end of the scalar that is being read. -/
def flush (s : State) : State :=
  match s.take with
  | (some t, s) => { s with tokens := t :: s.tokens }
  | (none, s) => s

/-- A token at the current place. Nothing is being read after it. -/
def emit (kind : Kind) (value : List Char) (s : State) : State :=
  { s with
    tokens := ⟨kind, ofChars value, s.buffer.source.reverse ++ value, s.place⟩ :: s.tokens
    buffer := {}, block := none }

/-- A mark of one character after the scalar that is being read. -/
def mark (kind : Kind) (c : Char) (s : State) : State := (s.flush.emit kind [c]).advance 1

/-! ## Marks -/

/-- A bracket or a brace; `n` and `m` are what it adds to the numbers of open ones. -/
def bracket (kind : Kind) (c : Char) (n m : Int) (s : State) : State :=
  { s.mark kind c with brackets := s.brackets + n, braces := s.braces + m }

/-- A line that separates documents. -/
def separate (kind : Kind) (cs : List Char) (s : State) : State := (s.flush.emit kind cs).advance 3

/-- Whether the current character and the two after it are the only ones of their kind at the start of a line. -/
def atTriple (c : Char) (rest : List Char) (s : State) : Bool :=
  s.indent = 0 && s.place.column = 1 && (rest.takeWhile (· = c)).length = 2

/-- Whether the key for merging is followed by a colon before white space. -/
def endsMergeKey : List Char → Bool
  | [] => false
  | ' ' :: rest => endsMergeKey rest
  | ':' :: c :: rest => c = ' ' || isBreak c || endsMergeKey (c :: rest)
  | _ => false

/-- Whether the source begins with a tab, or with a space and a tab. -/
def isTabbed (s : State) : Bool :=
  match s.buffer.source.reverse with
  | '\t' :: _ => true
  | ' ' :: '\t' :: _ => true
  | _ => false

/-- A hyphen that is no part of a scalar, if it begins an item. -/
def item? (s : State) : Option State :=
  if s.isTabbed then none else some { s.mark .dash '-' with floor := s.place.column }

/-- Whether a colon ends a key, by what follows it. -/
def endsKey (rest : List Char) (s : State) : Bool :=
  if s.inDirective || s.inName then false
  else if 0 < s.braces then rest.head? ≠ some '/' && s.lastKind? ≠ some .colon
  else rest.head?.all fun c => isBlank c || isBreak c

/-- The colon after a key. The floor is the column of the key. -/
def colon? (s : State) : Option State :=
  if s.isTabbed then none
  else match s.take with
    | (some t, s) => some (({ s with tokens := t :: s.tokens, floor := t.place.column }.emit .colon [':']).advance 1)
    | (none, s) =>
      let floor := match s.tokens.head? with
        | some t => if t.kind = .quoted then t.place.column else s.floor
        | none => s.floor
      some (({ s with floor }.emit .colon [':']).advance 1)

/-- The head of a block, with the number of characters that it has after the first. The last character of a text that ends
with its head is passed over. -/
def blockHead? (c : Char) (rest : List Char) (s : State) : Option (State × Nat) :=
  let line := rest.takeWhile fun c => !isBreak c
  let after := rest.drop line.length
  let ending := if after.take 2 = ['\r', '\n'] then 2 else 1
  let text := if after = [] then line.dropLast else line
  let marks := match text.idxOf '#' with
    | 0 => text
    | n => text.take n
  let marks := Block.dropEnd isBlank marks
  let floor := if s.place.column = 1 then 1 else s.floor
  (Block.ofMarks? (c = '|') floor marks).map fun b =>
    let kind := if c = '|' then Kind.literal else Kind.folded
    let s := { s.emit kind (c :: marks ++ after.take 1) with floor, block := some b, shift := .within }
    (s.nextLine, text.length + ending)

/-- A tag, with the number of characters that it has after the first. One at the very end of a text does not count. -/
def tag? (rest : List Char) (s : State) : Option (State × Nat) :=
  let name := rest.takeWhile fun c => c ≠ ' ' && !isBreak c && !(c = ',' && s.inFlow)
  if name.contains '\x7b' || name.contains '\x7d' then none
  else match rest.drop name.length with
    | [] => some ({ s with buffer := {} }.advance name.length, name.length)
    | c :: _ =>
      let n := name.length + if c = ' ' then 1 else 0
      some ((s.emit .tag ('!' :: name)).advance n, n)

/-- A comment, with the number of characters that it has after the first. -/
def comment (rest : List Char) (s : State) : State × Nat :=
  let line := rest.takeWhile fun c => !isBreak c
  ((s.flush.emit .comment ('#' :: line)).nextLine, line.length + 1)

/-- A scalar between quotes, with the number of characters that it has after the first. -/
def quote? (c : Char) (rest : List Char) (s : State) : Option (State × Nat) :=
  (quoted? c s.place s.floor rest).map fun q =>
    let t : Token :=
      ⟨.quoted, ofChars q.value.reverse, s.buffer.source.reverse ++ c :: rest.take (q.length - 1), s.place⟩
    let atStart := if q.place.line = s.place.line then s.atStart else true
    ({ s with
       place := q.place, tokens := t :: s.tokens, buffer := {}, block := none, atStart
       indent := if q.place.line = s.place.line then s.indent else 0
       inName := s.inName && q.place.line = s.place.line
       inDirective := s.inDirective && q.place.line = s.place.line }, q.length - 1)

/-! ## White space -/

/-- The end of a line, with the number of characters that it has after the first. An empty line within a scalar is a line
end, and any other line end is a blank. -/
def lineEnd? (c : Char) (rest : List Char) (s : State) : Option (State × Nat) :=
  let s := if s.buffer.pending ≠ [] ∧ s.start = none then
      { s with start := some { s.place with column := s.place.column - s.content.length } }
    else s
  let s := { s with buffer := s.buffer.trimmed }
  let n := if c = '\r' ∧ rest.head? = some '\n' then 1 else 0
  let s := if rest.drop n = [] ∨ s.inName ∨ s.inDirective then s.flush else s
  if s.isReading ∧ s.atStart then
    if s.buffer.pending = [] then none
    else some (({ s with buffer := s.buffer.breakLine }.note '\n').nextLine, n)
  else some (({ s with buffer := s.buffer.push ' ' }.note '\n').nextLine, n)

/-- A space. It ends the names of anchors and aliases and the words of directives. -/
def space (s : State) : State :=
  if s.atStart then (s.note ' ').advance 1
  else if s.inDirective then (s.flush.note ' ').advance 1
  else if s.inName then { s.flush with inName := false }.read ' '
  else s.read ' '

/-- A tab. It is passed over right of the floor, and cannot indent. -/
def tab? (s : State) : Option State :=
  if (s.isReading ∧ s.floor = 0) ∨ s.floor < s.place.column then some { s.note '\t' with indent := s.indent + 1 }
  else if s.inFlow ∨ !s.atStart then some (s.read '\t')
  else none

/-! ## Blocks -/

/-- The end of a block before a line that is not right of the floor. A block without content is an empty text, if its head
is not at the start of a line. -/
def endBlock? (s : State) : Option State :=
  match s.tokens with
  | [] => some { s with block := none }
  | last :: _ =>
    if last.place.column = 1 then none
    else if last.kind = .string then some { s with block := none }
    else some { s with tokens := ⟨.string, [], [], s.place⟩ :: s.tokens, block := none }

/-- The content of a block as a token at the current place. -/
def emitBlock (s : State) : State :=
  { s with
    tokens := ⟨.string, ofChars s.content, s.buffer.source.reverse, s.place⟩ :: s.tokens
    buffer := {}, block := none }

/-- One more character of a block before some text. -/
def readBlock? (b : Block) (c : Char) (rest : List Char) (s : State) : Option State :=
  let column := s.place.column
  if rest = [] then
    let (b, buffer) := if s.atStart ∧ c = ' ' then b.pushIndent column s.buffer else (b, s.buffer.push c)
    let b := b.reach column
    if b.isAligned then some ({ s with block := some b, buffer }.emitBlock.advance 1) else none
  else if c = '\n' then
    let s := { s with block := some (b.endLine (column - 1)), buffer := s.buffer.push c }.nextLine
    some (if atSeparator rest then s.emitBlock else s)
  else if s.atStart ∧ c = ' ' then
    let (b, buffer) := b.pushIndent column s.buffer
    some ({ s with block := some b, buffer }.advance 1)
  else if c = '\t' ∧ !b.isIndent column then some ({ s with buffer := s.buffer.pushInBlock c }.advance 1)
  else if (c = '\t' ∧ s.atStart) ∨ (b.first = 0 ∧ column < b.spaces) then none
  else
    let b := b.reach column
    let floor := if 1 < b.first then b.first - 1 else s.floor
    let (b', buffer) := b.joinLine column s.buffer
    if b.isAligned then
      some ({ s with block := some b', buffer := buffer.pushInBlock c, floor }.advance 1)
    else none

/-- One more character of a block, with the number of further characters that are read. Every line end is a line feed. -/
def stepBlock? (b : Block) (c : Char) (rest : List Char) (s : State) : Option (State × Nat) :=
  if c = '\r' then
    let n := if rest.head? = some '\n' then 1 else 0
    ((s.note '\n').readBlock? b '\n' (rest.drop n)).map (·, n)
  else ((s.note c).readBlock? b c rest).map (·, 0)

/-! ## Reading -/

/-- The state with what the first character of a line says about the line. -/
def enter (c : Char) (s : State) : State :=
  if !s.atStart then { s with shift := .within }
  else if isBreak c ∨ c = '\t' then s
  else if c = ' ' then { s with indent := s.indent + 1 }
  else
    { s with
      atStart := false
      shift := if s.floor = 0 then s.shift else if s.floor < s.place.column then .up else .down }

/-- Reads a character outside of blocks, before some text; with the state comes the number of further characters that are
read. -/
def stepMark? (c : Char) (rest : List Char) (s : State) : Option (State × Nat) :=
  let one := fun (s : State) => some (s, 0)
  let isGap := fun (c : Char) => isBlank c || isBreak c
  match c with
  | '\x7b' => one (if s.isReading ∧ !s.inFlow then s.read c else s.bracket .openBrace c 0 1)
  | '\x7d' => one (if s.braces ≤ 0 then s.read c else s.bracket .closeBrace c 0 (-1))
  | '[' => one (if s.isReading ∧ !s.inFlow then s.read c else s.bracket .openBracket c 1 0)
  | ']' => one (if s.isReading ∧ s.brackets ≤ 0 then s.read c else s.bracket .closeBracket c (-1) 0)
  | ',' => one (if s.inFlow then s.mark .comma c else s.read c)
  | '.' => if s.atTriple c rest then some (s.separate .documentEnd ['.', '.', '.'], 2) else one (s.read c)
  | '<' =>
    if (rest.takeWhile (· = c)).length = 1 ∧ endsMergeKey (rest.drop 1) then
      some (({ s with floor := s.place.column }.emit .mergeKey ['<', '<']).advance 2, 1)
    else one (s.read c)
  | '-' =>
    if s.atTriple c rest ∧ (rest.drop 2).head?.all isGap then
      some ({ s.separate .documentStart ['-', '-', '-'] with floor := 0, indent := 0 }, 2)
    else if s.isReading then
      if s.shift = .up then one { s.read c with block := some (.ofPlain s.place.column) } else one (s.read c)
    else if rest.head?.all fun c => isGap c || c = Char.ofNat 0 then s.item?.map (·, 0)
    else one (s.read c)
  | ':' => if s.endsKey rest then s.colon?.map (·, 0) else one (s.read c)
  | '|' | '>' => if s.isReading then one (s.read c) else s.blockHead? c rest
  | '!' => if s.isReading ∨ s.inDirective then one (s.read c) else s.tag? rest
  | '%' => one (if s.isReading ∨ s.indent ≠ 0 then s.read c else { s.mark .directive c with inDirective := true })
  | '?' =>
    one (if !s.isReading ∧ rest.head?.any isBlank then { s.emit .question [c] with floor := s.place.column }.advance 1
      else s.read c)
  | '&' => one (if s.isReading then s.read c else { s.mark .anchor c with inName := true })
  | '*' => one (if s.isReading then s.read c else { s.mark .reference c with inName := true })
  | '#' => if s.isReading ∧ !isGap s.previous then one (s.read c) else some (s.comment rest)
  | '\'' | '"' => if s.isReading then one (s.read c) else s.quote? c rest
  | '\n' | '\r' => s.lineEnd? c rest
  | ' ' => one s.space
  | '\t' => s.tab?.map (·, 0)
  | '@' => if s.isReading then one (s.read c) else none
  | '\x60' => if s.isReading then one (s.read c) else none
  | _ => one (s.read c)

/-- Reads a character before some text; with the state comes the number of further characters that are read. -/
def step? (c : Char) (rest : List Char) (s : State) : Option (State × Nat) :=
  let s := s.enter c
  let s := if s.shift = .down then s.flush else s
  match s.block with
  | none => s.stepMark? c rest
  | some b =>
    if s.shift = .down then s.endBlock?.bind fun s => s.stepMark? c rest
    else s.stepBlock? b c rest

/-- Reads a text after some characters of it that are passed over. -/
def steps? : (skipped : Nat) → State → List Char → Option State
  | _, s, [] => some s
  | n + 1, s, c :: rest => steps? n { s with previous := c } rest
  | 0, s, c :: rest => (s.step? c rest).bind fun (s, n) => steps? n { s with previous := c } rest

end State

/-- The tokens of a text, without comments. -/
def tokens? (t : Text) : Option (List Token) :=
  (State.steps? 0 {} (chars t)).map fun s => s.flush.tokens.reverse.filter (·.kind ≠ .comment)

end Literate.Yaml
