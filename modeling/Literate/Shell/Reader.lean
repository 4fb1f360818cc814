import Literate.Shell.Token

/-!
# Reading scripts

Words are read byte by byte, and commands token by token. The two depend on each other, because a word can hold a command
whose output it takes. A script is read one line at a time, so that the lines before a mistake are still run:
`nextLine?`. A document that a line asks for is read together with the end of that line.

Each reader has a bound on how deep it goes, which the length of the script gives: `Source.bound`.
-/

namespace Literate.Shell

open Text

namespace Reading

/-! ## Bytes -/

/-- Whether a byte ends a word. -/
def isSeparator (b : UInt8) : Bool :=
  [byte ' ', byte '\t', byte '\n', byte ';', byte '&', byte '|', byte '<', byte '>', byte '(', byte ')'].contains b

/-- Whether a byte names a parameter of its own. -/
def isSpecial (b : UInt8) : Bool :=
  isDigit b || [byte '?', byte '$', byte '!', byte '#', byte '-', byte '*', byte '@'].contains b

/-- What a part of a word stands in. -/
inductive Surround where
  | bare
  | double
  /-- The word within the braces of a parameter. -/
  | braces (isQuoted : Bool)
  /-- An arithmetic expression, with the number of its open brackets. -/
  | sum (depth : Nat)
  | document
deriving DecidableEq

namespace Surround

/-- Whether what stands there is quoted. -/
def isQuoted : Surround → Bool
  | bare => false
  | braces q => q
  | _ => true

/-- Whether a single quote begins a quoted text there. -/
def takesSingle : Surround → Bool
  | bare => true
  | braces q => !q
  | _ => false

/-- Whether a double quote begins a quoted text there. -/
def takesDouble : Surround → Bool
  | bare => true
  | braces _ => true
  | _ => false

/-- Whether a backslash before a byte hides it. -/
def hides (s : Surround) (b : UInt8) : Bool :=
  !s.isQuoted || [byte '\\', byte '`', byte '$'].contains b ||
    (b = byte '"' && (s = .double || s.takesDouble)) || (b = byte '\x7d' && s.takesDouble)

end Surround

/-- The text between backquotes without the backslashes that count there, and what follows it. -/
def backquoted? (isQuoted : Bool) : Text → Option (Text × Text)
  | [] => none
  | [b] => if b = byte '`' then some ([], []) else none
  | b :: c :: rest =>
    if b = byte '`' then some ([], c :: rest)
    else if b = byte '\\' then
      (backquoted? isQuoted rest).map fun (t, after) =>
        if [byte '\\', byte '`', byte '$'].contains c || (isQuoted && c = byte '"') then (c :: t, after)
        else (b :: c :: t, after)
    else (backquoted? isQuoted (c :: rest)).map fun (t, after) => (b :: t, after)

/-- The name and the first part of the value of a word that is an assignment. -/
def assignment? (w : Word) : Option (Text × Word) :=
  match w with
  | .bare t :: rest =>
    (cut (byte '=') t).bind fun (name, value) =>
      if isName name then some (name, if value = [] then rest else .bare value :: rest) else none
  | _ => none

/-- The builtins that no function can be named after. -/
def specialNames : List Text :=
  ["." , ":", "break", "continue", "eval", "exec", "exit", "export", "readonly", "return", "set", "shift", "times",
    "trap", "unset"]

/-- One command after another. -/
def andNext : Command → Command → Command
  | .nothing, c => c
  | a, c => .sequence a c

/-- A command with the redirections that follow it. -/
def withRedirects (line : Nat) (c : Command) (rs : List Redirect) : Command :=
  if rs.isEmpty then c else .redirected line c rs

/-! ## Documents -/

/-- The lines of a document before the line that is its mark, and the lines after it. -/
def cutDocument (mark : Text) (isStripped : Bool) : List Text → Text × List Text
  | [] => ([], [])
  | l :: rest =>
    let l := if isStripped then l.dropWhile (· = byte '\t') else l
    if trimEnd (· = byte '\n') l = mark then ([], rest)
    else
      let (t, after) := cutDocument mark isStripped rest
      (l ++ t, after)

/-! ## Words and commands -/

mutual

/-- The parts of a word up to its end. -/
def parts : (n : Nat) → Surround → Reading Word
  | 0, _ => complain "Word too long"
  | n + 1, s => do
    match ← ahead with
    | [] =>
      match s with
      | .bare | .document => return []
      | .double => complain "Unterminated quoted string"
      | .braces _ => complain "Missing '\x7d'"
      | .sum _ => complain "Missing '))'"
    | b :: rest =>
      if s = .bare ∧ isSeparator b then return []
      else if (s = .double ∧ b = byte '"') ∨ (s.takesDouble ∧ s ≠ .bare ∧ b = byte '\x7d') then
        skip 1
        return []
      else
        match s with
        | .sum depth =>
          if b = byte '(' then
            skip 1
            return Word.cons (.quoted [b]) (← parts n (.sum (depth + 1)))
          else if b = byte ')' ∧ depth = 0 ∧ startsWith rest ")" then
            skip 2
            return []
          else if b = byte ')' then
            skip 1
            return Word.cons (.quoted [b]) (← parts n (.sum (depth - 1)))
          else
            let ps ← part n s b
            return ps.foldr Word.cons (← parts n s)
        | _ =>
          let ps ← part n s b
          return ps.foldr Word.cons (← parts n s)

/-- The part that begins with a byte. -/
def part : (n : Nat) → Surround → UInt8 → Reading Word
  | 0, _, _ => complain "Word too long"
  | n + 1, s, b => do
    skip 1
    if b = byte '\'' ∧ s.takesSingle then
      let t := (← get).rest
      let body := t.takeWhile (· ≠ byte '\'')
      skip (body.length + 1)
      if body.length = t.length then complain "Unterminated quoted string" else return [.quoted body]
    else if b = byte '"' ∧ s.takesDouble then
      return .quoted [] :: (← parts n .double)
    else if b = byte '\\' then
      match (← get).rest with
      | [] => return [.quoted [b]]
      | c :: _ =>
        skip 1
        return [.quoted (if s.hides c then [c] else [b, c])]
    else if b = byte '$' then expansion n s
    else if b = byte '`' then
      let source ← get
      match backquoted? (s = .double) source.rest with
      | none =>
        skip source.rest.length
        complain "EOF in backquote substitution"
      | some (inner, after) =>
        set { source with rest := inner, pushed := none }
        let c ← commands n false true .nothing
        modify fun t => { t with rest := after, line := source.line, pushed := source.pushed }
        return [.output s.isQuoted c]
    else return [if s.isQuoted then .quoted [b] else if s = .bare then .bare [b] else .loose [b]]

/-- The part that follows a dollar sign. -/
def expansion : (n : Nat) → Surround → Reading Word
  | 0, _ => complain "Word too long"
  | n + 1, s => do
    let q := s.isQuoted
    let rest ← ahead
    if startsWith rest "(" then
      skip 1
      if startsWith (← ahead) "(" then
        skip 1
        return [.number q (← parts n (.sum 0))]
      else
        let pushed := (← get).pushed
        modify fun t => { t with pushed := none }
        let c ← commands n false true .nothing
        let t ← token n false false
        if !t.isSymbol ")" then unexpected t "\")\""
        modify fun t => { t with pushed }
        return [.output q c]
    else if startsWith rest "\x7b" then
      skip 1
      braced n s
    else
      match rest with
      | [] => return [.bare "$"]
      | b :: _ =>
        if isNameStart b then return [.parameter q (← span isNameByte) .value]
        else if isSpecial b then
          skip 1
          return [.parameter q [b] .value]
        else return [if q then .quoted "$" else .bare "$"]

/-- The parameter between braces. -/
def braced : (n : Nat) → Surround → Reading Word
  | 0, _ => complain "Word too long"
  | n + 1, s => do
    let q := s.isQuoted
    let isLength := startsWith (← ahead) "#" && !startsWith ((← ahead).drop 1) "\x7d"
    if isLength then skip 1
    let name ← match ← ahead with
      | [] => pure []
      | b :: _ =>
        if isNameStart b then span isNameByte
        else if isDigit b then span isDigit
        else if isSpecial b then do
          skip 1
          pure [b]
        else pure []
    let rest ← ahead
    let colon := startsWith rest ":"
    let sign := if colon then (rest.drop 1).take 1 else rest.take 1
    let after := if colon then 2 else 1
    let word := fun (p : Bool) => parts n (.braces p)
    if name = [] then
      let _ ← word q
      return [.senseless]
    else if startsWith rest "\x7d" then
      skip 1
      return [.parameter q name (if isLength then .length else .value)]
    else if isLength then
      let _ ← word q
      return [.senseless]
    else if sign = ("-" : Text) then
      skip after
      return [.parameter q name (.fallback colon (← word q))]
    else if sign = ("=" : Text) then
      skip after
      return [.parameter q name (.assigned colon (← word q))]
    else if sign = ("?" : Text) then
      skip after
      return [.parameter q name (.demanded colon (← word q))]
    else if sign = ("+" : Text) then
      skip after
      return [.parameter q name (.replaced colon (← word q))]
    else if !colon ∧ (sign = ("%" : Text) ∨ sign = ("#" : Text)) then
      skip 1
      let longest := startsWith (← ahead) sign
      if longest then skip 1
      return [.parameter q name (.trimmed (sign = ("%" : Text)) longest (← word false))]
    else
      let _ ← word q
      return [.senseless]

/-- The next token. Ends of lines are passed over if `newlines` says so, and words can be keywords if `keywords` does. -/
def token : (n : Nat) → (newlines keywords : Bool) → Reading Token
  | 0, _, _ => complain "Script too long"
  | n + 1, newlines, keywords => do
    let finish := fun (t : Token) => if keywords then t.asKeyword else t
    match (← get).pushed with
    | some .newline =>
      modify fun s => { s with pushed := none }
      if newlines then
        documents n
        token n newlines keywords
      else return .newline
    | some t =>
      modify fun s => { s with pushed := none }
      return finish t
    | none =>
      let rest ← ahead
      let symbol := fun (t : Text) => do
        skip t.length
        return Token.symbol t
      match rest with
      | [] => return .done
      | b :: rest =>
        if b = byte ' ' ∨ b = byte '\t' then
          skip 1
          token n newlines keywords
        else if b = byte '#' then
          skip ((b :: rest).takeWhile (· ≠ byte '\n')).length
          token n newlines keywords
        else if b = byte '\n' then
          skip 1
          if newlines then
            documents n
            token n newlines keywords
          else return .newline
        else if b = byte '&' then symbol (if startsWith rest "&" then "&&" else "&")
        else if b = byte '|' then symbol (if startsWith rest "|" then "||" else "|")
        else if b = byte ';' then symbol (if startsWith rest ";" then ";;" else ";")
        else if b = byte '(' ∨ b = byte ')' then symbol [b]
        else
          let w ← parts n .bare
          let next := (← get).rest.take 1
          if next = ("<" : Text) ∨ next = (">" : Text) then
            match w with
            | [] => arrow (if next = ("<" : Text) then 0 else 1)
            | [.bare [d]] => if isDigit d then arrow (d - byte '0').toNat else return finish (.word w)
            | _ => return finish (.word w)
          else return finish (.word w)

/-- The arrow of a redirection. -/
def arrow (descriptor : Nat) : Reading Token := do
  let rest ← ahead
  let it := fun (n : Nat) (t : Token) => do
    skip n
    return t
  if startsWith rest ">>" then it 2 (.arrow descriptor .append)
  else if startsWith rest ">|" then it 2 (.arrow descriptor .write)
  else if startsWith rest ">&" then it 2 (.arrow descriptor .copy)
  else if startsWith rest ">" then it 1 (.arrow descriptor .write)
  else if startsWith rest "<<-" then it 3 (.document descriptor true)
  else if startsWith rest "<<" then it 2 (.document descriptor false)
  else if startsWith rest "<&" then it 2 (.arrow descriptor .copy)
  else if startsWith rest "<>" then it 2 (.arrow descriptor .both)
  else it 1 (.arrow descriptor .read)

/-- Reads the documents that are wanted. -/
def documents : (n : Nat) → Reading Unit
  | 0 => complain "Script too long"
  | n + 1 => do
    match (← get).wanted with
    | [] => return
    | d :: wanted =>
      let s ← get
      let (body, lines) := cutDocument d.mark d.isStripped (physicalLines s.rest)
      let word ←
        if d.isRaw then pure [Part.quoted body]
        else do
          set { s with rest := body, pushed := none }
          parts n .document
      modify fun t => { t with
        rest := lines.flatten
        line := s.line + (s.rest.count (byte '\n') - lines.flatten.count (byte '\n'))
        pushed := s.pushed
        wanted
        documents := t.documents.set d.number word }
      documents n

/-- The target of a redirection. -/
def redirect : (n : Nat) → Token → Reading Redirect
  | 0, _ => complain "Script too long"
  | n + 1, arrow => do
    match ← token n false false, arrow with
    | .word w, .arrow d a => return .mk d a w
    | .word w, .document d isStripped =>
      let (mark, isRaw) := Word.literal w
      let number := (← get).documents.length
      modify fun s => { s with
        documents := s.documents ++ [[]]
        wanted := s.wanted ++ [⟨number, mark, isRaw, isStripped⟩] }
      return .mk d (.document number) []
    | t, _ => unexpected t

/-- The redirections after a compound command. -/
def redirects : (n : Nat) → (keywords : Bool) → Reading (List Redirect)
  | 0, _ => complain "Script too long"
  | n + 1, keywords => do
    match ← token n false keywords with
    | .arrow d a => return (← redirect n (.arrow d a)) :: (← redirects n false)
    | .document d s => return (← redirect n (.document d s)) :: (← redirects n false)
    | t =>
      push t
      return []

/-- The rest of a simple command. An assignment is one only before the first word. -/
def simple : (n line : Nat) → List (Text × Word) → List Word → List Redirect → Reading Command
  | 0, _, _, _, _ => complain "Script too long"
  | n + 1, line, assignments, words, rs => do
    match ← token n false false with
    | .word w =>
      match if words.isEmpty then assignment? w else none with
      | some a => simple n line (assignments ++ [a]) words rs
      | none => simple n line assignments (words ++ [w]) rs
    | .arrow d a => simple n line assignments words (rs ++ [← redirect n (.arrow d a)])
    | .document d s => simple n line assignments words (rs ++ [← redirect n (.document d s)])
    | t =>
      if t.isSymbol "(" ∧ words.length = 1 ∧ assignments.isEmpty ∧ rs.isEmpty then
        let close ← token n false false
        if !close.isSymbol ")" then unexpected close "\")\""
        match words.head?.bind Word.bare? with
        | some name =>
          if isName name ∧ !specialNames.contains name then return .define name (← command n true true)
          else complain "Bad function name"
        | none => complain "Bad function name"
      else
        push t
        return .simple line assignments words rs

/-- The words of a loop up to the end of their line. -/
def wordsOfLoop : (n : Nat) → Reading (List Word)
  | 0 => complain "Script too long"
  | n + 1 => do
    match ← token n false false with
    | .word w => return w :: (← wordsOfLoop n)
    | .newline => return []
    | t => if t.isSymbol ";" then return [] else unexpected t

/-- The patterns of an arm of a selection, of which the first is known. -/
def patterns : (n : Nat) → Token → Reading (List Word)
  | 0, _ => complain "Script too long"
  | n + 1, t => do
    let w : Word := match t with
      | .word w => w
      | .keyword k => [.bare k]
      | _ => []
    let next ← token n false false
    if next.isSymbol "|" then return w :: (← patterns n (← token n false false))
    else if next.isSymbol ")" then return [w]
    else unexpected next "\")\""

/-- The arms of a selection. -/
def arms : (n : Nat) → Reading (List (List Word × Command))
  | 0 => complain "Script too long"
  | n + 1 => do
    let t ← token n true true
    if t.isKeyword "esac" then return []
    else
      let first ← if t.isSymbol "(" then token n false false else pure t
      let ws ← patterns n first
      let body ← commands n false true .nothing
      let t ← token n true true
      if t.isKeyword "esac" then return [(ws, body)]
      else if t.isSymbol ";;" then return (ws, body) :: (← arms n)
      else unexpected t "\";;\""

/-- What follows the test of a condition. -/
def branches : (n : Nat) → Reading Command
  | 0 => complain "Script too long"
  | n + 1 => do
    let test ← commands n false false .nothing
    let t ← token n false false
    if !t.isKeyword "then" then unexpected t "\"then\""
    let yes ← commands n false false .nothing
    let t ← token n false false
    if t.isKeyword "elif" then return .choice test yes (← branches n)
    else if t.isKeyword "else" then return .choice test yes (← commands n false false .nothing)
    else
      push t
      return .choice test yes .nothing

/-- A command. -/
def command : (n : Nat) → (newlines keywords : Bool) → Reading Command
  | 0, _, _ => complain "Script too long"
  | n + 1, newlines, keywords => do
    let t ← token n newlines keywords
    let line := (← get).line
    let closed := fun (c : Command) (isEnd : Token → Bool) (name : Text) => do
      let t ← token n false false
      if !isEnd t then unexpected t name
      return withRedirects line c (← redirects n true)
    if t.isKeyword "if" then closed (← branches n) (·.isKeyword "fi") "\"fi\""
    else if t.isKeyword "while" ∨ t.isKeyword "until" then
      let test ← commands n false false .nothing
      let u ← token n false false
      if !u.isKeyword "do" then unexpected u "\"do\""
      let body ← commands n false false .nothing
      closed (.loop (t.isKeyword "until") test body) (·.isKeyword "done") "\"done\""
    else if t.isKeyword "for" then
      match ← token n false false with
      | .word [.bare name] =>
        if !isName name then complain "Bad for loop variable"
        let u ← token n true true
        let words ←
          if u.isKeyword "in" then wordsOfLoop n
          else do
            if !u.isSymbol ";" then push u
            pure [[Part.parameter true "@" .value]]
        let u ← token n true true
        if !u.isKeyword "do" then unexpected u "\"do\""
        let body ← commands n false false .nothing
        closed (.each line name words body) (·.isKeyword "done") "\"done\""
      | _ => complain "Bad for loop variable"
    else if t.isKeyword "case" then
      match ← token n false false with
      | .word w =>
        let u ← token n true true
        if !u.isKeyword "in" then unexpected u "\"in\""
        let arms ← arms n
        return withRedirects line (.select line w arms) (← redirects n true)
      | u => unexpected u "word"
    else if t.isSymbol "(" then
      closed (.subshell (← commands n false false .nothing)) (·.isSymbol ")") "\")\""
    else if t.isKeyword "\x7b" then
      closed (← commands n false false .nothing) (·.isKeyword "\x7d") "\"\x7d\""
    else
      match t with
      | .word _ | .arrow _ _ | .document _ _ =>
        push t
        simple n line [] [] []
      | _ => unexpected t

/-- The commands of a pipeline after the first one. -/
def piped : (n : Nat) → Reading (List Command)
  | 0 => complain "Script too long"
  | n + 1 => do
    let t ← token n false false
    if t.isSymbol "|" then return (← command n true true) :: (← piped n)
    else
      push t
      return []

/-- A pipeline. -/
def pipeline : (n : Nat) → (newlines keywords : Bool) → Reading Command
  | 0, _, _ => complain "Script too long"
  | n + 1, newlines, keywords => do
    let t ← token n newlines keywords
    let negated := t.isKeyword "!"
    if !negated then push t
    let c ← command n false negated
    let rest ← piped n
    let c := if rest.isEmpty then c else .pipeline (c :: rest)
    return if negated then .negated c else c

/-- The pipelines that are joined to a first one. -/
def chain : (n : Nat) → Command → Reading Command
  | 0, _ => complain "Script too long"
  | n + 1, c => do
    let t ← token n false false
    if t.isSymbol "&&" then chain n (.andThen c (← pipeline n true true))
    else if t.isSymbol "||" then chain n (.orElse c (← pipeline n true true))
    else
      push t
      return c

/-- The commands of a line, or of a block of lines, after those before them. A block can end where a command could begin
if `mayEnd` says so. -/
def commands : (n : Nat) → (isLine mayEnd : Bool) → Command → Reading Command
  | 0, _, _, _ => complain "Script too long"
  | n + 1, isLine, mayEnd, before => do
    match ← token n (!isLine) true with
    | .newline =>
      documents n
      return before
    | .done =>
      documents n
      push .done
      return before
    | t =>
      push t
      if !isLine ∧ mayEnd ∧ t.endsList then return before
      else
        let c ← chain n (← pipeline n false false)
        let t ← token n false false
        let all := andNext before (if t.isSymbol "&" then .background c else c)
        match t with
        | .newline | .done =>
          push t
          commands n isLine true all
        | t =>
          if t.isSymbol "&" ∨ t.isSymbol ";" then commands n isLine true all
          else if isLine then unexpected t
          else
            push t
            return all

end

end Reading

/-- How deep reading a script can go. -/
def Source.bound (s : Source) : Nat := 16 * (s.rest.length + 4)

/-- The commands of the next line, and the script after it; none at the end of the script. -/
def nextLine? (s : Source) : Except Complaint (Option (Command × Source)) :=
  let line : Reading (Option Command) := do
    match ← Reading.token s.bound false false with
    | .done => return none
    | .newline => return some .nothing
    | t =>
      Reading.push t
      return some (← Reading.commands s.bound true true .nothing)
  match line.run s with
  | .error c => .error c
  | .ok (none, _) => .ok none
  | .ok (some c, s) => .ok (some (c, s))

end Literate.Shell
