import Literate.Regex.Property

/-!
# Reading regular expressions

The notation has literals, `.`, sets in brackets, groups, alternatives, repetitions, anchors, escapes, and flags such as
`(?i)` that hold up to the end of their group. What is no expression gives `none`.
-/

namespace Literate.Regex

/-- How characters are read. -/
structure Flags where
  /-- Case makes no difference. -/
  fold : Bool := false
  /-- `^` and `$` also hold at line feeds. -/
  lines : Bool := false
  /-- `.` also stands for a line feed. -/
  dotAll : Bool := false

/-! ## Numbers and characters -/

/-- The value of a hexadecimal digit. -/
def hexValue? (c : Char) : Option Nat :=
  if '0' ≤ c ∧ c ≤ '9' then some (c.toNat - 48)
  else if 'a' ≤ c ∧ c ≤ 'f' then some (c.toNat - 87)
  else if 'A' ≤ c ∧ c ≤ 'F' then some (c.toNat - 55)
  else none

/-- Whether a character is an octal digit. -/
def isOctal (c : Char) : Bool := '0' ≤ c && c ≤ '7'

/-- The hexadecimal digits up to a closing brace: their value, and what follows the brace. -/
def braced? (value : Nat) (any : Bool) : List Char → Option (Nat × List Char)
  | [] => none
  | c :: rest =>
    if c = '}' then if any then some (value, rest) else none
    else match hexValue? c with
      | none => none
      | some d => if 0x10FFFF < value * 16 + d then none else braced? (value * 16 + d) true rest

/-- The character that an escape stands for, and what follows it. -/
def escape? : List Char → Option (Nat × List Char)
  | [] => none
  | c :: rest =>
    if c = 'x' then
      match rest with
      | '{' :: rest => braced? 0 false rest
      | a :: b :: rest => do return ((← hexValue? a) * 16 + (← hexValue? b), rest)
      | _ => none
    else if isOctal c then
      match rest with
      | a :: b :: rest' =>
        if isOctal a ∧ isOctal b then
          some ((c.toNat - 48) * 64 + (a.toNat - 48) * 8 + (b.toNat - 48), rest')
        else if isOctal a then some ((c.toNat - 48) * 8 + (a.toNat - 48), b :: rest')
        else if c = '0' then some (0, rest)
        else none
      | [a] => if isOctal a then some ((c.toNat - 48) * 8 + (a.toNat - 48), []) else if c = '0' then some (0, rest) else none
      | [] => if c = '0' then some (0, []) else none
    else if c = 'a' then some (7, rest)
    else if c = 'f' then some (12, rest)
    else if c = 'n' then some (10, rest)
    else if c = 'r' then some (13, rest)
    else if c = 't' then some (9, rest)
    else if c = 'v' then some (11, rest)
    else if c.toNat < 0x80 ∧ !c.isAlphanum then some (c.toNat, rest)
    else none

/-! ## Sets -/

/-- A set under the flags in force. -/
def Flags.apply (f : Flags) (s : CharSet) : CharSet := if f.fold then s.folded else s

/-- The set of a letter after a backslash. -/
def letterSet? (f : Flags) (c : Char) : Option CharSet :=
  match c with
  | 'd' => some (f.apply .digit)
  | 's' => some (f.apply .blank)
  | 'w' => some (f.apply .word)
  | 'D' => some (f.apply .digit).compl
  | 'S' => some (f.apply .blank).compl
  | 'W' => some (f.apply .word).compl
  | _ => none

/-- The sets that have a name between `[:` and `:]`. -/
def namedSet? (name : String) : Option CharSet :=
  match name with
  | "alnum" => some Char.isAlphanum
  | "alpha" => some Char.isAlpha
  | "ascii" => some (.range 0 127)
  | "blank" => some fun c => c == ' ' || c == '\t'
  | "cntrl" => some fun c => c.toNat < 32 || c.toNat == 127
  | "digit" => some .digit
  | "graph" => some (.range 33 126)
  | "lower" => some Char.isLower
  | "print" => some (.range 32 126)
  | "punct" => some fun c => 33 ≤ c.toNat && c.toNat ≤ 126 && !c.isAlphanum
  | "space" => some fun c => c == ' ' || (9 ≤ c.toNat && c.toNat ≤ 13)
  | "upper" => some Char.isUpper
  | "word" => some .word
  | "xdigit" => some fun c => (hexValue? c).isSome
  | _ => none

/-- The name of a property after `\p`, with its sign, and what follows it. -/
def propertyName? (rest : List Char) : Option (Bool × List Char × List Char) :=
  let signed := fun (name after : List Char) =>
    match name with
    | '^' :: name => (true, name, after)
    | name => (false, name, after)
  match rest with
  | '{' :: rest =>
    let name := rest.takeWhile (· ≠ '}')
    match rest.drop name.length with
    | [] => none
    | _ :: after => some (signed name after)
  | c :: rest => some (signed [c] rest)
  | [] => none

/-- The set of an escape that stands for one, and what follows it; `none` within if the escape stands for a character. -/
def escapedSet? (f : Flags) : List Char → Option (Option (CharSet × List Char))
  | [] => none
  | c :: rest =>
    if c = 'p' ∨ c = 'P' then do
      let (negated, name, after) ← propertyName? rest
      let set ← property? name
      let set := f.apply set
      return some (if negated != (c == 'P') then set.compl else set, after)
    else some ((letterSet? f c).map fun s => (s, rest))

/-- The name of a set between `[:` and `:]`, and what follows it. -/
def setName? : List Char → Option (List Char × List Char)
  | [] => none
  | [_] => none
  | a :: b :: rest =>
    if a = ':' ∧ b = ']' then some ([], rest)
    else (setName? (b :: rest)).map fun (name, after) => (a :: name, after)

/-- A single character of a set, and what follows it. -/
def setChar? : List Char → Option (Nat × List Char)
  | [] => none
  | '\\' :: rest => escape? rest
  | c :: rest => some (c.toNat, rest)

/-- One item of a set, and what follows it. -/
def setItem? (f : Flags) (cs : List Char) : Option (CharSet × List Char) :=
  let single : Option (CharSet × List Char) := do
    let (lo, rest) ← setChar? cs
    match rest with
    | '-' :: c :: rest' =>
      if c = ']' then return (f.apply (.range lo lo), rest)
      else
        let (hi, after) ← setChar? (c :: rest')
        if hi < lo then none else return (f.apply (.range lo hi), after)
    | _ => return (f.apply (.range lo lo), rest)
  match cs with
  | '[' :: ':' :: rest =>
    match setName? rest with
    | none => single
    | some (name, after) =>
      match name with
      | '^' :: name => (namedSet? (String.ofList name)).map fun s => ((f.apply s).compl, after)
      | name => (namedSet? (String.ofList name)).map fun s => (f.apply s, after)
  | '\\' :: rest =>
    match escapedSet? f rest with
    | none => none
    | some (some found) => some found
    | some none => single
  | _ => single

/-- The items of a set up to its closing bracket, of which at most `n` are read. -/
def setItems? (f : Flags) : (n : Nat) → (first : Bool) → List Char → Option (List CharSet × List Char)
  | 0, _, _ => none
  | n + 1, first, cs =>
    match cs with
    | [] => none
    | c :: rest =>
      if c = ']' ∧ !first then some ([], rest)
      else do
        let (item, after) ← setItem? f cs
        let (items, after) ← setItems? f n false after
        return (item :: items, after)

/-- A set after its opening bracket, and what follows it. -/
def brackets? (f : Flags) (cs : List Char) : Option (CharSet × List Char) :=
  match cs with
  | '^' :: rest => (setItems? f (rest.length + 1) true rest).map fun (items, after) => ((CharSet.union items).compl, after)
  | _ => (setItems? f (cs.length + 1) true cs).map fun (items, after) => (CharSet.union items, after)

/-! ## Repetitions -/

/-- A number without leading zeros, and what follows it. -/
def count? (cs : List Char) : Option (Nat × List Char) :=
  let digits := cs.takeWhile Char.isDigit
  if digits = [] ∨ (1 < digits.length ∧ digits.head? = some '0') then none
  else some (digits.foldl (fun n c => n * 10 + (c.toNat - 48)) 0, cs.drop digits.length)

/-- The bounds of a repetition between braces, and what follows it. -/
def bounds? (cs : List Char) : Option (Nat × Option Nat × List Char) := do
  let (min, rest) ← count? cs
  match rest with
  | '}' :: rest => some (min, some min, rest)
  | ',' :: '}' :: rest => some (min, none, rest)
  | ',' :: rest =>
    let (max, rest) ← count? rest
    match rest with
    | '}' :: rest => some (min, some max, rest)
    | _ => none
  | _ => none

/-- The most often that an expression may be repeated. -/
def maxRepeat : Nat := 1000

/-- A repetition operator: how often it repeats, and what follows it. -/
inductive Operator where
  | none
  | invalid
  | some (min : Nat) (max : Option Nat) (rest : List Char)

/-- The repetition operator at the start of a text, with the mark that makes it reluctant. -/
def operatorAt (cs : List Char) : Operator :=
  let reluctant := fun (rest : List Char) =>
    match rest with
    | '?' :: rest => rest
    | rest => rest
  match cs with
  | '*' :: rest => .some 0 none (reluctant rest)
  | '+' :: rest => .some 1 none (reluctant rest)
  | '?' :: rest => .some 0 (some 1) (reluctant rest)
  | '{' :: rest =>
    match bounds? rest with
    | Option.none => .none
    | Option.some (min, max, rest) =>
      if maxRepeat < min ∨ max.any (fun m => maxRepeat < m || m < min) then .invalid
      else .some min max (reluctant rest)
  | _ => .none

/-! ## Groups -/

/-- The flags of a group up to `)` or `:`. The result says whether the group goes on after a colon. -/
def flagsFrom (f : Flags) (on seen : Bool) : List Char → Option (Flags × Bool × List Char)
  | [] => none
  | c :: rest =>
    if c = 'i' then flagsFrom { f with fold := on } on true rest
    else if c = 'm' then flagsFrom { f with lines := on } on true rest
    else if c = 's' then flagsFrom { f with dotAll := on } on true rest
    else if c = 'U' then flagsFrom f on true rest
    else if c = '-' ∧ on then flagsFrom f false false rest
    else if c = ':' ∧ (on ∨ seen) then some (f, true, rest)
    else if c = ')' ∧ (on ∨ seen) then some (f, false, rest)
    else none

/-- What follows the name of a group and `>`. -/
def afterName? (cs : List Char) : Option (List Char) :=
  let name := cs.takeWhile CharSet.word
  match cs.drop name.length with
  | '>' :: rest => if name = [] then none else some rest
  | _ => none

/-- What a group begins with. -/
inductive Opening where
  /-- A group with an expression, which may be captured. -/
  | group (f : Flags) (captured : Bool) (rest : List Char)
  /-- Flags for the rest of the group around it. -/
  | flags (f : Flags) (rest : List Char)

/-- What stands after an opening parenthesis. -/
def opening? (f : Flags) (cs : List Char) : Option Opening :=
  match cs with
  | '?' :: 'P' :: '<' :: rest => (afterName? rest).map (.group f true)
  | '?' :: '<' :: rest => (afterName? rest).map (.group f true)
  | '?' :: rest => (flagsFrom f true false rest).map fun (g, inside, rest) =>
      if inside then .group g false rest else .flags g rest
  | _ => some (.group f true cs)

/-! ## Parts -/

/-- An expression with its bulk: how many steps it takes up when repetitions are written out, how deep it is nested, and
whether it is a literal. -/
structure Part where
  regex : Regex
  size : Nat := 1
  height : Nat := 1
  literal : Bool := false

namespace Part

/-- The most steps that an expression may take up. -/
def maxSize : Nat := 3355443

/-- The deepest that an expression may be nested. -/
def maxHeight : Nat := 1000

/-- The part, if it is not too large. -/
def checked? (p : Part) : Option Part := if maxSize < p.size ∨ maxHeight < p.height then none else some p

/-- The largest height of parts. -/
def tallest (parts : List Part) : Nat := parts.foldl (fun h p => Nat.max h p.height) 0

/-- The steps of all parts. -/
def total (parts : List Part) : Nat := parts.foldl (fun n p => n + p.size) 0

/-- Parts one after another. -/
def sequence (parts : List Part) : Part :=
  match parts with
  | [] => ⟨empty, 1, 1, false⟩
  | [p] => p
  | parts =>
    let literal := parts.all (·.literal)
    ⟨parts.foldr (fun p r => seq p.regex r) empty, total parts, if literal then 1 else tallest parts + 1, literal⟩

/-- One of several parts. -/
def choice (parts : List Part) : Part :=
  match parts with
  | [] => ⟨empty, 1, 1, false⟩
  | [p] => p
  | p :: rest =>
    ⟨rest.foldl (fun r q => alt r q.regex) p.regex, total parts + rest.length, tallest parts + 1, false⟩

/-- A part repeated; parts repeated within each other may not be repeated too often in all. -/
def repeated? (p : Part) (min : Nat) (max : Option Nat) : Option Part :=
  let whole := rep p.regex min max
  let size :=
    match max with
    | some m => m * p.size + (m - min)
    | none => if min = 0 then p.size + 2 else min * p.size + 1
  if (2 ≤ min ∨ 2 ≤ max.getD 0) ∧ !whole.repeatsAtMost maxRepeat then none
  else checked? ⟨whole, Nat.max 1 size, p.height + 1, false⟩

/-- A part in a group. -/
def captured (p : Part) : Part := ⟨p.regex, p.size + 2, p.height + 1, false⟩

end Part

/-! ## Expressions -/

/-- A group that is not closed yet: whether it is captured, the flags to go back to, the alternatives before the current
one and the parts of the current one, both with the last first. -/
structure Frame where
  captured : Bool := false
  flags : Flags := {}
  alternatives : List Part := []
  parts : List Part := []

/-- The alternatives of a group. -/
def Frame.close? (f : Frame) : Option Part :=
  ((Part.sequence f.parts.reverse).checked?).bind fun last =>
    (Part.choice (last :: f.alternatives).reverse).checked?

/-- What was read so far: the flags in force, the open groups, and whether a repetition came last. -/
structure Reading where
  flags : Flags := {}
  frame : Frame := {}
  outer : List Frame := []
  repeated : Bool := false

namespace Reading

/-- The reading with one more part. -/
def push (r : Reading) (p : Part) : Reading :=
  { r with frame := { r.frame with parts := p :: r.frame.parts }, repeated := false }

/-- The reading with one more character. -/
def literal (r : Reading) (n : Nat) : Reading := r.push ⟨set (r.flags.apply (.range n n)), 1, 1, true⟩

/-- The reading with one more condition. -/
def assert (r : Reading) (a : Assertion) : Reading := r.push ⟨check a, 1, 1, false⟩

/-- The reading with the last part repeated. -/
def again? (r : Reading) (min : Nat) (max : Option Nat) : Option Reading :=
  match r.frame.parts with
  | [] => none
  | p :: rest =>
    if r.repeated then none
    else (p.repeated? min max).map fun p => { r with frame := { r.frame with parts := p :: rest }, repeated := true }

/-- The reading after a bar. -/
def bar? (r : Reading) : Option Reading :=
  (Part.sequence r.frame.parts.reverse).checked?.map fun p =>
    { r with frame := { r.frame with alternatives := p :: r.frame.alternatives, parts := [] }, repeated := false }

/-- The reading after a closing parenthesis. -/
def close? (r : Reading) : Option Reading :=
  match r.outer with
  | [] => none
  | f :: outer => do
    let whole ← r.frame.close?
    let whole ← if r.frame.captured then whole.captured.checked? else some whole
    return { flags := r.frame.flags, frame := { f with parts := whole :: f.parts }, outer }

/-- The reading after an opening parenthesis. -/
def open? (r : Reading) (cs : List Char) : Option (Reading × List Char) :=
  (opening? r.flags cs).map fun
    | .flags f rest => ({ r with flags := f, repeated := false }, rest)
    | .group f captured rest =>
      ({ flags := f, frame := { captured, flags := r.flags }, outer := r.frame :: r.outer }, rest)

/-- The text up to `\E`, and what follows it. -/
def quoted : List Char → List Char × List Char
  | [] => ([], [])
  | '\\' :: 'E' :: rest => ([], rest)
  | c :: rest => let (t, after) := quoted rest; (c :: t, after)

/-- The reading after an escape. -/
def escape? (r : Reading) (cs : List Char) : Option (Reading × List Char) :=
  match cs with
  | 'A' :: rest => some (r.assert .textStart, rest)
  | 'z' :: rest => some (r.assert .textEnd, rest)
  | 'b' :: rest => some (r.assert .wordEdge, rest)
  | 'B' :: rest => some (r.assert .noWordEdge, rest)
  | 'Q' :: rest =>
    let (t, rest) := quoted rest
    some (t.foldl (fun r c => r.literal c.toNat) { r with repeated := false }, rest)
  | _ =>
    match escapedSet? r.flags cs with
    | none => none
    | some (some (s, after)) => some (r.push { regex := set s }, after)
    | some none => (Regex.escape? cs).map fun (n, after) => (r.literal n, after)

/-- One step of the reading, and what follows it. -/
def step? (r : Reading) (c : Char) (rest : List Char) : Option (Reading × List Char) :=
  match operatorAt (c :: rest) with
  | .invalid => none
  | .some min max rest => (r.again? min max).map (·, rest)
  | .none =>
    match c with
    | '(' => r.open? rest
    | ')' => r.close?.map (·, rest)
    | '|' => r.bar?.map (·, rest)
    | '^' => some (r.assert (if r.flags.lines then .lineStart else .textStart), rest)
    | '$' => some (r.assert (if r.flags.lines then .lineEnd else .textEnd), rest)
    | '.' =>
      let all := r.flags.dotAll
      some (r.push { regex := set fun c => all || c != '\n' }, rest)
    | '[' => (brackets? r.flags rest).map fun (s, after) => (r.push { regex := set s }, after)
    | '\\' => r.escape? rest
    | c => some (r.literal c.toNat, rest)

/-- Reads a text to its end in at most `fuel` steps. -/
def run? : (fuel : Nat) → Reading → List Char → Option Reading
  | _, r, [] => some r
  | 0, _, _ :: _ => none
  | fuel + 1, r, c :: rest => (r.step? c rest).bind fun (r, rest) => run? fuel r rest

end Reading

/-- Reads a regular expression. -/
def parse? (pattern : Text) : Option Regex :=
  if !Text.isValid pattern then none
  else
    let cs := Text.chars pattern
    (Reading.run? cs.length {} cs).bind fun r =>
      if r.outer.isEmpty then r.frame.close?.map (·.regex) else none

end Literate.Regex
