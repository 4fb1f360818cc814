import Literate.Shell.Tool

/-!
# Arranging lines

The tool `sort` puts lines in order. Lines are compared by keys, which are parts of them between separators, each in an
order of its own; lines with equal keys are compared as a whole, unless the order among them is to stay.
-/

namespace Literate.Shell.Arrange

open Text

/-! ## Orders -/

/-- What a key is taken for. -/
structure Style where
  numeric : Bool := false
  general : Bool := false
  human : Bool := false
  month : Bool := false
  /-- Whether only letters, digits and white space count. -/
  dictionary : Bool := false
  /-- Whether only bytes that can be printed count. -/
  printing : Bool := false
  folds : Bool := false
  reverses : Bool := false
deriving DecidableEq

/-- Whether a byte separates fields if no separator is given. -/
def isBlank (b : UInt8) : Bool := b = byte ' ' || b = byte '\t' || b = byte '\n'

/-- Compares two texts byte by byte. -/
def compareBytes : Text → Text → Ordering
  | [], [] => .eq
  | [], _ => .lt
  | _, [] => .gt
  | a :: s, b :: t => (compare a b).then (compareBytes s t)

/-- A decimal number: its sign, its digits before the point, and those after it. -/
structure Figure where
  isNegative : Bool
  whole : Text
  fraction : Text

/-- The number at the start of a text. -/
def Figure.of (t : Text) : Figure :=
  let t := t.dropWhile isBlank
  let isNegative := startsWith t "-"
  let t := if isNegative then t.drop 1 else t
  let after := t.dropWhile isDigit
  ⟨isNegative, t.takeWhile isDigit, if startsWith after "." then (after.drop 1).takeWhile isDigit else []⟩

/-- The number scaled so that `places` digits after the point count. -/
def Figure.scaled (f : Figure) (places : Nat) : Int :=
  let n := ((f.whole ++ f.fraction ++ List.replicate (places - f.fraction.length) (byte '0')).foldl
    (fun n b => n * 10 + (b - byte '0').toNat) 0 : Nat)
  if f.isNegative then -(n : Int) else n

/-- Compares the numbers at the starts of two texts. -/
def compareFigures (s t : Text) : Ordering :=
  let f := Figure.of s
  let g := Figure.of t
  let places := Nat.max f.fraction.length g.fraction.length
  compare (f.scaled places) (g.scaled places)

/-- The rank of the unit after a number. -/
def unitRank (t : Text) : Int :=
  let f := Figure.of t
  let digits := f.whole ++ f.fraction
  let t := (t.dropWhile isBlank).dropWhile fun b => b = byte '-' || b = byte '.' || isDigit b
  let units : Text := "KMGTPEZYRQ"
  let rank : Nat := match t with
    | b :: _ => if b = byte 'k' then 1 else ((units.idxOf? b).map (· + 1)).getD 0
    | [] => 0
  if digits.all (· = byte '0') then 0 else if f.isNegative then -(rank : Int) else rank

/-- A text in upper case. -/
def upper (t : Text) : Text := t.map fun b => if 97 ≤ b ∧ b ≤ 122 then b - 32 else b

/-- The number of the month whose name begins a text, or zero. -/
def monthNumber (t : Text) : Nat :=
  let names : List Text := ["JAN", "FEB", "MAR", "APR", "MAY", "JUN", "JUL", "AUG", "SEP", "OCT", "NOV", "DEC"]
  ((names.idxOf? (upper ((t.dropWhile isBlank).take 3))).map (· + 1)).getD 0

/-- The number at the start of a text in any notation, as a floating-point number. -/
def general? (t : Text) : Option Float :=
  let t := t.dropWhile isBlank
  let isNegative := startsWith t "-"
  let body := if isNegative ∨ startsWith t "+" then t.drop 1 else t
  let whole := body.takeWhile isDigit
  let after := body.dropWhile isDigit
  let fraction := if startsWith after "." then (after.drop 1).takeWhile isDigit else []
  let last := if startsWith after "." then (after.drop 1).dropWhile isDigit else after
  let digits := whole ++ fraction
  if digits = [] then none
  else
    let negated := startsWith (last.drop 1) "-"
    let power := if negated ∨ startsWith (last.drop 1) "+" then (last.drop 2).takeWhile isDigit
      else (last.drop 1).takeWhile isDigit
    let exponent := if upper (last.take 1) = ("E" : Text) then Nat.min ((digits? 10 power).getD 0) 400 else 0
    let scale := (if negated then -(exponent : Int) else exponent) - fraction.length
    let value := (digits? 10 digits).getD 0
    let x := if scale < 0 then Float.ofScientific value true scale.natAbs else Float.ofScientific value false scale.natAbs
    some (if isNegative then -x else x)

/-- Compares two numbers in any notation; what is no number comes first. -/
def compareGeneral (s t : Text) : Ordering :=
  match general? s, general? t with
  | none, none => .eq
  | none, some _ => .lt
  | some _, none => .gt
  | some x, some y => if x < y then .lt else if y < x then .gt else .eq

namespace Style

/-- The bytes of a key that count, in the form in which they count. -/
def relevant (s : Style) (t : Text) : Text :=
  let t := if s.dictionary then t.filter fun b => isBlank b || isDigit b || (isNameStart b && b ≠ byte '_')
    else if s.printing then t.filter isPrintable
    else t
  if s.folds then upper t else t

/-- Compares two keys. -/
def compare (s : Style) (a b : Text) : Ordering :=
  let o :=
    if s.numeric then compareFigures a b
    else if s.general then compareGeneral a b
    else if s.human then (Ord.compare (unitRank a) (unitRank b)).then (compareFigures a b)
    else if s.month then Ord.compare (monthNumber a) (monthNumber b)
    else compareBytes (s.relevant a) (s.relevant b)
  if s.reverses then o.swap else o

/-- The letters of the style, in order. -/
def letters (s : Style) : Text :=
  onlyIf s.dictionary "d" ++ onlyIf s.folds "f" ++ onlyIf s.general "g" ++ onlyIf s.human "h" ++
    onlyIf (s.printing ∧ !s.dictionary) "i" ++ onlyIf s.month "M" ++ onlyIf s.numeric "n"

/-- Whether the parts of a style contradict each other. -/
def isTorn (s : Style) : Bool :=
  1 < [s.numeric, s.general, s.human, s.month, s.dictionary || s.printing].count true

/-- The style with one more letter; none if the letter has no meaning. -/
def withLetter? (s : Style) (b : UInt8) : Option Style :=
  if b = byte 'n' then some { s with numeric := true }
  else if b = byte 'g' then some { s with general := true }
  else if b = byte 'h' then some { s with human := true }
  else if b = byte 'M' then some { s with month := true }
  else if b = byte 'd' then some { s with dictionary := true }
  else if b = byte 'i' then some { s with printing := true }
  else if b = byte 'f' then some { s with folds := true }
  else if b = byte 'r' then some { s with reverses := true }
  else if b = byte 'R' ∨ b = byte 'V' then some s
  else none

end Style

/-! ## Keys -/

/-- A part of a line: from a byte of a field to a byte of a field, both counted from zero. An absent end is that of the
line, and an end at byte zero is that of its field. -/
structure Key where
  startField : Nat := 0
  startByte : Nat := 0
  skipsBlanks : Bool := false
  stop : Option (Nat × Nat) := none
  stopSkipsBlanks : Bool := false
  style : Style := {}

/-- The line after its first fields, with the separators that follow them. -/
def afterFields (separator : Option UInt8) : (n : Nat) → Text → Text
  | 0, t => t
  | n + 1, t =>
    match separator with
    | some s => afterFields separator n ((t.dropWhile (· ≠ s)).drop 1)
    | none => afterFields separator n ((t.dropWhile isBlank).dropWhile fun b => !isBlank b)

/-- What follows the end of a key in a line. -/
def afterKey (separator : Option UInt8) (k : Key) (line : Text) : Text :=
  match k.stop with
  | none => []
  | some (field, 0) =>
    match separator with
    | some s => (afterFields separator field line).dropWhile (· ≠ s)
    | none => afterFields none (field + 1) line
  | some (field, n + 1) =>
    let t := afterFields separator field line
    (if k.stopSkipsBlanks then t.dropWhile isBlank else t).drop (n + 1)

/-- The part of a line that a key names. -/
def Key.text (separator : Option UInt8) (k : Key) (line : Text) : Text :=
  let t := afterFields separator k.startField line
  let t := (if k.skipsBlanks then t.dropWhile isBlank else t).drop k.startByte
  t.take (t.length - (afterKey separator k line).length)

/-- The message about a field that is described wrongly. -/
def wrongField (reason spec : Text) : Text := reason ++ ": invalid field specification " ++ shownArgument spec

/-- A number of a field description that is at least one; counted from zero, with what follows it. -/
def position? (spec reason zero : Text) (t : Text) : Except Text (Nat × Text) :=
  let digits := t.takeWhile isDigit
  if digits = [] then .error (reason ++ ": invalid count at start of " ++ shownArgument t)
  else
    match (digits? 10 digits).getD 0 with
    | 0 => .error (wrongField zero spec)
    | n + 1 => .ok (n, t.dropWhile isDigit)

/-- The key with the letters at the start of a text, and what follows them. A `b` holds for the end of the key that it
stands at. -/
def withLetters (atEnd : Bool) (k : Key) : Text → Key × Text
  | [] => (k, [])
  | b :: rest =>
    if b = byte 'b' then
      withLetters atEnd (if atEnd then { k with stopSkipsBlanks := true } else { k with skipsBlanks := true }) rest
    else
      match k.style.withLetter? b with
      | some style => withLetters atEnd { k with style } rest
      | none => (k, b :: rest)

/-- The key that a text describes, or the message that says what is wrong with it. -/
def Key.read? (spec : Text) : Except Text Key := do
  let zeroField : Text := "field number is zero"
  let stray := wrongField "stray character in field spec" spec
  let (startField, rest) ← position? spec "invalid number at field start" zeroField spec
  let (startByte, rest) ←
    if startsWith rest "." then position? spec "invalid number after '.'" "character offset is zero" (rest.drop 1)
    else pure (0, rest)
  let (k, rest) := withLetters false { startField, startByte } rest
  if !startsWith rest "," then if rest = [] then return k else throw stray
  else
    let (stopField, rest) ← position? spec "invalid number after ','" zeroField (rest.drop 1)
    let (stopByte, rest) ←
      if startsWith rest "." then
        let digits := (rest.drop 1).takeWhile isDigit
        if digits = [] then
          throw ("invalid number after '.': invalid count at start of " ++ shownArgument (rest.drop 1))
        else pure ((digits? 10 digits).getD 0, (rest.drop 1).dropWhile isDigit)
      else pure (0, rest)
    let (k, rest) := withLetters true { k with stop := some (stopField, stopByte) } rest
    if rest = [] then return k else throw stray

/-- How lines are compared. -/
structure Plan where
  keys : List Key
  style : Style
  separator : Option UInt8
  /-- Whether lines with equal keys are equal. -/
  isFinal : Bool

namespace Plan

/-- Compares two lines by the keys. -/
def compareKeys (p : Plan) (a b : Text) : Ordering :=
  p.keys.foldl (fun o k => o.then (k.style.compare (k.text p.separator a) (k.text p.separator b))) .eq

/-- Compares two lines. -/
def compare (p : Plan) (a b : Text) : Ordering :=
  let last := if p.isFinal then .eq else compareBytes a b
  (p.compareKeys a b).then (if p.style.reverses then last.swap else last)

/-- Compares two lines by all that makes them different for a run without repeats. -/
def isSame (p : Plan) (a b : Text) : Bool :=
  if p.keys.isEmpty then a = b else p.compareKeys a b = .eq

end Plan

/-! ## The tool -/

/-- The options of `sort`. -/
def choices : List Choice :=
  [⟨byte 'b', "ignore-leading-blanks", false⟩, ⟨byte 'c', "check", false⟩, ⟨byte 'C', [], false⟩,
    ⟨byte 'd', "dictionary-order", false⟩, ⟨byte 'f', "ignore-case", false⟩,
    ⟨byte 'g', "general-numeric-sort", false⟩, ⟨byte 'i', "ignore-nonprinting", false⟩, ⟨byte 'k', "key", true⟩,
    ⟨byte 'm', "merge", false⟩, ⟨byte 'M', "month-sort", false⟩, ⟨byte 'n', "numeric-sort", false⟩,
    ⟨byte 'h', "human-numeric-sort", false⟩] ++
  [⟨byte 'V', "version-sort", false⟩, ⟨byte 'R', "random-sort", false⟩, ⟨2, "random-source", true⟩,
    ⟨byte 'o', "output", true⟩, ⟨byte 'r', "reverse", false⟩, ⟨byte 's', "stable", false⟩,
    ⟨byte 'S', "buffer-size", true⟩, ⟨byte 't', "field-separator", true⟩, ⟨byte 'T', "temporary-directory", true⟩,
    ⟨byte 'u', "unique", false⟩, ⟨byte 'z', "zero-terminated", false⟩, ⟨1, "parallel", true⟩]

/-- The separator that an option names. -/
def separator? (values : List Text) : Except Text (Option UInt8) :=
  values.foldlM (fun old v =>
    let new : Except Text UInt8 := match v with
      | [] => .error "empty tab"
      | [b] => .ok b
      | v => if v = ("\\0" : Text) then .ok 0 else .error ("multi-character tab " ++ shownArgument v)
    match old, new with
    | _, .error m => .error m
    | some a, .ok b => if a = b then .ok (some b) else .error "incompatible tabs"
    | none, .ok b => .ok (some b)) none

/-- The lines of a text without their ends. -/
def linesOf (terminator : UInt8) (t : Text) : List Text :=
  let ls := pieces terminator t
  if ls.getLast? = some [] then ls.dropLast else ls

/-- The lines without those that are the same as the one before them. -/
def withoutRepeats (same : Text → Text → Bool) : List Text → List Text
  | [] => []
  | [l] => [l]
  | l :: k :: rest => if same l k then withoutRepeats same (l :: rest) else l :: withoutRepeats same (k :: rest)
termination_by ls => ls.length

/-- The number of the first line, from number `n` on, that does not come after the one before it. -/
def disorder? (isInOrder : Text → Text → Bool) : (n : Nat) → List Text → Option (Nat × Text)
  | n, l :: k :: rest => if isInOrder l k then disorder? isInOrder (n + 1) (k :: rest) else some (n, k)
  | _, _ => none

/-- The plan that options describe, or the message that says what is wrong with them. -/
def plan? (a : Arguments) : Except Text Plan := do
  let values := fun (c : Char) => (a.options.filter fun g => g.letter = byte c).map (·.value)
  let given ← (values 'k').mapM Key.read?
  let style := a.options.foldl (fun (s : Style) g => (s.withLetter? g.letter).getD s) {}
  let inherits := fun (k : Key) =>
    if k.style = {} ∧ !k.skipsBlanks ∧ !k.stopSkipsBlanks then
      { k with style, skipsBlanks := a.has 'b', stopSkipsBlanks := a.has 'b' }
    else k
  let keys := given.map inherits
  let whole : Key := { style, skipsBlanks := a.has 'b' }
  let keys := if keys.isEmpty ∧ (style ≠ { reverses := style.reverses } ∨ a.has 'b') then [whole] else keys
  match keys.find? fun k => k.style.isTorn with
  | some k => throw ("options '-" ++ k.style.letters ++ "' are incompatible")
  | none =>
    let separator ← separator? (values 't')
    return ⟨keys, style, separator, a.has 's' || a.has 'u'⟩

/-- Puts the lines that it reads in order. -/
def run (c : Call) : Report :=
  match Arguments.read? choices true c.args with
  | .error m => c.refuse 2 m
  | .ok a =>
    let fail := fun (m : Text) => ({ writes := [(2, c.message m)], status := 2 } : Report)
    let terminator := if a.has 'z' then 0 else byte '\n'
    let checks := a.has 'c' || a.has 'C'
    match plan? a with
    | .error m => fail m
    | .ok plan =>
      if a.has 'c' ∧ a.has 'C' then fail "options '-cC' are incompatible"
      else if checks ∧ (a.value? 'o').isSome then
        fail (if a.has 'C' then "options '-Co' are incompatible" else "options '-co' are incompatible")
      else
        match checks, a.operands with
        | true, _ :: extra :: _ =>
          fail ("extra operand " ++ shownArgument extra ++ " not allowed with " ++ (if a.has 'c' then "-c" else "-C"))
        | _, operands =>
          let reads := c.reads operands
          let troubled := reads.filterMap fun r =>
            match r.text with
            | .error .isFolder => none
            | .error t => some (shown r.path ++ ": " ++ troubleText t)
            | .ok _ => none
          let folders := reads.filter fun r => r.text matches .error .isFolder
          match troubled.head?, folders.head? with
          | some m, _ => fail ((if checks then "open failed: " else "cannot read: ") ++ m)
          | none, some r => fail ("read failed: " ++ shown r.path ++ ": " ++ troubleText .isFolder)
          | none, none =>
            let texts := reads.map fun r =>
              match r.text with
              | .ok t => linesOf terminator t
              | .error _ => []
            let lines := texts.flatten
            let readsIt := readsInput operands
            if checks then
              let isInOrder := fun (l k : Text) =>
                let o := plan.compare l k
                let o := if plan.keys.isEmpty ∧ plan.isFinal then compareBytes l k else o
                o = .lt || (o = .eq && !a.has 'u')
              match disorder? isInOrder 2 lines with
              | none => { reads := readsIt }
              | some (n, l) =>
                let name := (operands.map shown).headD [byte '-']
                { writes := if a.has 'C' then [] else [(2, c.message (name ++ ":" ++ ofNat n ++ ": disorder: " ++ l))]
                  status := 1, reads := readsIt }
            else
              let compare := fun (l k : Text) =>
                if plan.keys.isEmpty then
                  if plan.style.reverses then compareBytes k l else compareBytes l k
                else plan.compare l k
              let isInOrder := fun (l k : Text) => compare l k != .gt
              let sorted := if a.has 'm' then texts.foldl (·.merge · isInOrder) [] else lines.mergeSort isInOrder
              let kept := if a.has 'u' then withoutRepeats plan.isSame sorted else sorted
              let out := kept.flatMap (· ++ [terminator])
              match a.value? 'o' with
              | none => { writes := [(1, out)], reads := readsIt }
              | some path =>
                match c.disk.place path with
                | .ok l => { file := some (l, out), reads := readsIt }
                | .error t => fail ("open failed: " ++ shown path ++ ": " ++ troubleText t)

end Literate.Shell.Arrange
