import Literate.Shell.Tool

/-!
# Replacing bytes

The tool `tr` replaces bytes, deletes them, or writes runs of equal bytes once. The bytes are given as sets: sequences of
bytes, ranges, named classes and repetitions (`Replace.elements?`).
-/

namespace Literate.Shell.Replace

open Text

/-! ## Sets -/

/-- A part of a set. -/
inductive Element where
  | byte (b : UInt8)
  | range (lo hi : UInt8)
  | named (name : Text)
  /-- The bytes that are equal to a byte, which is only that byte itself. -/
  | same (b : UInt8)
  /-- A byte a number of times; zero stands for as often as needed. -/
  | repeated (b : UInt8) (count : Nat)
deriving DecidableEq

/-- A byte of the text of a set, and whether a backslash stood before it. -/
structure Sign where
  byte : UInt8
  isEscaped : Bool
deriving DecidableEq

/-- Whether a sign has the meaning of a byte. -/
def Sign.means (s : Sign) (c : Char) : Bool := s.byte = Text.byte c && !s.isEscaped

/-- The byte of a letter after a backslash. -/
def letterByte? (b : UInt8) : Option UInt8 :=
  if b = byte 'a' then some 7
  else if b = byte 'b' then some 8
  else if b = byte 'f' then some 12
  else if b = byte 'n' then some 10
  else if b = byte 'r' then some 13
  else if b = byte 't' then some 9
  else if b = byte 'v' then some 11
  else none

/-- Whether a byte is an octal digit. -/
def isOctal (b : UInt8) : Bool := byte '0' ≤ b && b ≤ byte '7'

/-- The value of octal digits. -/
def octal (t : Text) : Nat := t.foldl (fun n b => n * 8 + (b - byte '0').toNat) 0

/-- The signs of the text of a set, after its first `skip` bytes. -/
def signs : (skip : Nat) → Text → List Sign
  | _, [] => []
  | skip + 1, _ :: rest => signs skip rest
  | 0, b :: rest =>
    if b ≠ byte '\\' then ⟨b, false⟩ :: signs 0 rest
    else
      match rest with
      | [] => [⟨b, false⟩]
      | c :: _ =>
        if isOctal c then
          let three := (rest.take 3).takeWhile isOctal
          let digits := if 255 < octal three then three.take 2 else three
          ⟨(octal digits).toUInt8, true⟩ :: signs digits.length rest
        else ⟨(letterByte? c).getD c, true⟩ :: signs 1 rest

/-- Whether a lone backslash ends a text. -/
def endsWithBackslash (t : Text) : Bool := (t.reverse.takeWhile (· = byte '\\')).length % 2 = 1

/-- The bytes of a class. -/
def members? (name : Text) : Option (UInt8 → Bool) :=
  let isUpper := fun (b : UInt8) => 65 ≤ b && b ≤ 90
  let isLower := fun (b : UInt8) => 97 ≤ b && b ≤ 122
  let isAlnum := fun (b : UInt8) => isUpper b || isLower b || isDigit b
  if name = ("upper" : Text) then some isUpper
  else if name = ("lower" : Text) then some isLower
  else if name = ("alpha" : Text) then some fun b => isUpper b || isLower b
  else if name = ("digit" : Text) then some isDigit
  else if name = ("alnum" : Text) then some isAlnum
  else if name = ("space" : Text) then some fun b => b = 32 || (9 ≤ b && b ≤ 13)
  else if name = ("blank" : Text) then some fun b => b = 32 || b = 9
  else if name = ("punct" : Text) then some fun b => 33 ≤ b && b ≤ 126 && !isAlnum b
  else if name = ("print" : Text) then some isPrintable
  else if name = ("graph" : Text) then some fun b => 33 ≤ b && b ≤ 126
  else if name = ("cntrl" : Text) then some fun b => b < 32 || b = 127
  else if name = ("xdigit" : Text) then some fun b => isDigit b || (65 ≤ b && b ≤ 70) || (97 ≤ b && b ≤ 102)
  else none

/-- All bytes in order. -/
def allBytes : Text := (List.range 256).map (·.toUInt8)

/-- The text of signs. -/
def plain (ss : List Sign) : Text := ss.map (·.byte)

/-- The largest number of repetitions. -/
def maxCount : Nat := 18446744073709551614

/-- The repetition after an opening bracket, with its length; none if there is no repetition. -/
def repetition? (ss : List Sign) : Option (Except Text (Element × Nat)) :=
  match ss with
  | s :: star :: rest =>
    let inside := rest.takeWhile fun t => !t.means ']'
    if !star.means '*' ∨ inside.any (·.isEscaped) ∨ inside.length = rest.length then none
    else
      let t := plain inside
      let value := if startsWith t "0" then digits? 8 t else digits? 10 t
      match if t = [] then some 0 else value.filter (· ≤ maxCount) with
      | some n => some (.ok (.repeated s.byte n, t.length + 3))
      | none => some (.error ("invalid repeat count " ++ shownArgument t ++ " in [c*n] construct"))
  | _ => none

/-- What stands in signs before a mark and a closing bracket. -/
def beforeClosing? (mark : Char) : List Sign → Option (List Sign)
  | s :: t :: rest =>
    if s.means mark ∧ t.means ']' then some [] else (beforeClosing? mark (t :: rest)).map (s :: ·)
  | _ => none

/-- The class after an opening bracket, with its length; none if there is no class. -/
def bracketed? (ss : List Sign) : Option (Except Text (Element × Nat)) :=
  match ss with
  | s :: rest =>
    let mark := if s.means ':' then some ':' else if s.means '=' then some '=' else none
    match mark with
    | none => none
    | some m =>
      (beforeClosing? m rest).bind fun inside =>
        let t := plain inside
        let wrong := fun (message : Text) => if (repetition? ss).isSome then none else some (.error message)
        if t = [] then
          some (.error (if m = ':' then "missing character class name '[::]'"
            else "missing equivalence class character '[==]'"))
        else if m = ':' then
          if (members? t).isSome then some (.ok (.named t, t.length + 3))
          else wrong ("invalid character class " ++ shownArgument t)
        else
          match t with
          | [b] => some (.ok (.same b, 4))
          | _ => wrong (t ++ ": equivalence class operand must be a single character")
  | [] => none

/-- How the end of a range is shown. -/
def shownEnd (b : UInt8) : Text :=
  if isPrintable b then [b] else [byte '\\', byte '0' + b / 64, byte '0' + b / 8 % 8, byte '0' + b % 8]

/-- The elements of signs after the first `skip` of them, or the message that says what is wrong. -/
def elementsFrom : (skip : Nat) → List Sign → Except Text (List Element)
  | _, [] => .ok []
  | skip + 1, _ :: rest => elementsFrom skip rest
  | 0, s :: rest =>
    let one := (elementsFrom 0 rest).map (Element.byte s.byte :: ·)
    let ranged :=
      match rest with
      | dash :: hi :: _ =>
        if !dash.means '-' then one
        else if hi.byte < s.byte then
          .error ("range-endpoints of '" ++ shownEnd s.byte ++ "-" ++ shownEnd hi.byte ++
            "' are in reverse collating sequence order")
        else (elementsFrom 2 rest).map (Element.range s.byte hi.byte :: ·)
      | _ => one
    if s.means '[' ∧ 2 ≤ rest.length then
      match (bracketed? rest).or (repetition? rest) with
      | some (.ok (e, n)) => (elementsFrom n rest).map (e :: ·)
      | some (.error m) => .error m
      | none => ranged
    else ranged

/-- The elements of the text of a set, or the message that says what is wrong with it. -/
def elements? (t : Text) : Except Text (List Element) := elementsFrom 0 (signs 0 t)

namespace Element

/-- The bytes of an element; a repetition without end is empty. -/
def bytes : Element → Text
  | byte b => [b]
  | range lo hi => (List.range (hi.toNat + 1 - lo.toNat)).map fun i => lo + i.toUInt8
  | named name => allBytes.filter ((members? name).getD fun _ => false)
  | same b => [b]
  | repeated b n => List.replicate (Nat.min n 1000000) b

/-- Whether an element is a repetition without end. -/
def isEndless : Element → Bool
  | repeated _ 0 => true
  | _ => false

/-- Whether an element is a class. -/
def isClass : Element → Bool
  | named _ => true
  | _ => false

/-- Whether an element is one of the two classes of letters of one case. -/
def isCase : Element → Bool
  | named n => n = ("upper" : Text) || n = ("lower" : Text)
  | _ => false

end Element

/-- The bytes of a set. -/
def bytes (es : List Element) : Text := es.flatMap (·.bytes)

/-- The second set with its repetition without end written out, so that the set is as long as the first one. -/
def writtenOut (length : Nat) (es : List Element) : List Element :=
  let n := length - (bytes es).length
  es.flatMap fun e =>
    match e with
    | .repeated b 0 => if n = 0 then [] else [.repeated b n]
    | e => [e]

/-! ## Replacements -/

/-- A step of pairing two sets: a byte, or a class of letters as a whole. -/
inductive Slot where
  | byte (b : UInt8)
  | lower
  | upper
deriving DecidableEq

/-- The slots of an element; classes of letters stay whole if `whole` says so. -/
def slots (whole : Bool) (e : Element) : List Slot :=
  if whole ∧ e = .named "upper" then [.upper]
  else if whole ∧ e = .named "lower" then [.lower]
  else e.bytes.map .byte

/-- The bytes of a class of letters. -/
def Slot.bytes : Slot → Text
  | byte b => [b]
  | lower => (Element.named "lower").bytes
  | upper => (Element.named "upper").bytes

/-- The message for classes of letters that do not stand in the same place. -/
def misaligned : Text := "misaligned [:upper:] and/or [:lower:] construct"

/-- The pairs of a byte and its replacement, as far as the second set goes, and what is left of the first set. -/
def pairs : List Slot → List Slot → Except Text (List (UInt8 × UInt8) × List Slot)
  | ss, [] => .ok ([], ss)
  | [], t :: _ =>
    match t with
    | .byte _ => .ok ([], [])
    | _ => .error misaligned
  | s :: ss, t :: ts =>
    match s, t with
    | .byte a, .byte b => (pairs ss ts).map fun (ps, left) => ((a, b) :: ps, left)
    | .byte _, _ | _, .byte _ => .error misaligned
    | s, t => (pairs ss ts).map fun (ps, left) => (s.bytes.zip t.bytes ++ ps, left)

/-- What is written for a byte. The later one of two pairs for a byte counts. -/
def replacement (ps : List (UInt8 × UInt8)) (b : UInt8) : UInt8 := (ps.reverse.lookup b).getD b

/-- The message for a class at the end of a second set that is too short. -/
def classAtEnd : Text :=
  "when translating with string1 longer than string2,\nthe latter string must not end with a character class"

/-- The slots of the first set where the second set has classes of letters in the same places, and the bytes elsewhere. -/
def aligned : (first : List Slot) → (second : List Slot) → List Slot
  | [], _ => []
  | ss, [] => ss.flatMap fun s => s.bytes.map .byte
  | s :: ss, t :: ts =>
    match s, t with
    | .byte b, _ => .byte b :: aligned ss ts
    | s, .byte _ =>
      s.bytes.map .byte ++ aligned ss (ts.drop (s.bytes.length - 1))
    | s, _ => s :: aligned ss ts

/-- The pairs of two sets, or the message that says why there are none. -/
def replacements? (isComplement isTruncated : Bool) (first second : List Element) :
    Except Text (List (UInt8 × UInt8)) :=
  let source := bytes first
  let rest := allBytes.filter fun b => !source.contains b
  let length := if isComplement then rest.length else source.length
  let second := writtenOut length second
  let whole := second.any Element.isClass && !isComplement
  let target := second.flatMap (slots whole)
  let start := if isComplement then rest.map Slot.byte else aligned (first.flatMap (slots whole)) target
  match pairs start target with
  | .error m => .error m
  | .ok (ps, []) => .ok ps
  | .ok (ps, left) =>
    if isTruncated then .ok ps
    else
      match second.getLast? with
      | none => .error "when not truncating set1, string2 must be non-empty"
      | some e =>
        if e.isClass then .error classAtEnd
        else .ok (ps ++ left.flatMap fun s => s.bytes.map fun b => (b, e.bytes.getLastD 0))

/-- What is wrong with the two sets of a replacement, if anything is, before they are paired. -/
def problem? (first second : List Element) : Option Text :=
  if first.any Element.isEndless then some "the [c*] repeat construct may not appear in string1"
  else if 1 < second.countP Element.isEndless then some "only one [c*] repeat construct may appear in string2"
  else if second.any (fun e => match e with | .same _ => true | _ => false) then
    some "[=c=] expressions may not appear in string2 when translating"
  else if second.any fun e => e.isClass && !e.isCase then
    some "when translating, the only character classes that may appear in\nstring2 are 'upper' and 'lower'"
  else none

/-- The text in which runs of equal bytes of a set are written once. -/
def squeeze (isMember : UInt8 → Bool) : Text → Text
  | [] => []
  | [b] => [b]
  | b :: c :: rest => if b = c ∧ isMember b then squeeze isMember (c :: rest) else b :: squeeze isMember (c :: rest)

/-! ## The tool -/

/-- The options of `tr`. -/
def choices : List Choice :=
  [⟨byte 'c', "complement", false⟩, ⟨byte 'C', [], false⟩, ⟨byte 'd', "delete", false⟩,
    ⟨byte 's', "squeeze-repeats", false⟩, ⟨byte 't', "truncate-set1", false⟩]

/-- The message for a number of sets that does not fit the options. -/
def countMessage? (c : Call) (deletes squeezes : Bool) (sets : List Text) : Option Text :=
  let least := if deletes = squeezes then 2 else 1
  let most := if deletes ∧ !squeezes then 1 else 2
  match sets with
  | [] => some (c.message "missing operand" ++ c.hint)
  | [s] =>
    if least = 2 then
      some (c.message ("missing operand after " ++ shownArgument s) ++
        (if squeezes then "Two strings must be given when both deleting and squeezing repeats.\n"
          else "Two strings must be given when translating.\n") ++ c.hint)
    else none
  | sets =>
    (sets[most]?).map fun extra =>
      c.message ("extra operand " ++ shownArgument extra) ++
        (if most = 1 ∧ sets.length = 2 then
          ofString "Only one string may be given when deleting without squeezing repeats.\n" else []) ++ c.hint

/-- Replaces the bytes of one set by those of another, deletes them, or writes runs of them once. -/
def run (c : Call) : Report :=
  match Arguments.read? choices false c.args with
  | .error m => c.refuse 1 m
  | .ok a =>
    let deletes := a.has 'd'
    let squeezes := a.has 's'
    let isComplement := a.has 'c' || a.has 'C'
    match countMessage? c deletes squeezes a.operands with
    | some m => { writes := [(2, m)], status := 1 }
    | none =>
      let warnings := (a.operands.filter endsWithBackslash).flatMap fun _ =>
        c.message "warning: an unescaped backslash at end of string is not portable"
      let fail := fun (m : Text) => ({ writes := [(2, warnings ++ c.message m)], status := 1 } : Report)
      let write := fun (t : Text) => ({ writes := [(2, warnings), (1, t)], reads := true } : Report)
      match a.operands.mapM elements? with
      | .error m => fail m
      | .ok sets =>
        let first := sets.headD []
        let second := (sets.drop 1).headD []
        let isMember := fun (b : UInt8) => isComplement != (bytes first).contains b
        if first.any Element.isEndless then fail "the [c*] repeat construct may not appear in string1"
        else if deletes then
          if second.any Element.isEndless then
            fail (if 1 < second.countP Element.isEndless then "only one [c*] repeat construct may appear in string2"
              else "the [c*] construct may appear in string2 only when translating")
          else
            let kept := c.input.filter fun b => !isMember b
            write (if squeezes then squeeze (bytes second).contains kept else kept)
        else if sets.length = 1 then write (squeeze isMember c.input)
        else
          match problem? first second with
          | some m => fail m
          | none =>
            match replacements? isComplement (a.has 't') first second with
            | .error m => fail m
            | .ok ps =>
              let isVaried := (ps.map (·.2)).eraseDups.length ≠ 1
              if isComplement ∧ first.any Element.isClass ∧ isVaried ∧ ps ≠ [] then
                fail ("when translating with complemented character classes,\n" ++
                  "string2 must map all characters in the domain to one")
              else
                let table := (allBytes.map (replacement ps)).toArray
                let changed := c.input.map fun b => table.getD b.toNat b
                let written := (ps.map (·.2)) ++ bytes second
                write (if squeezes then squeeze written.contains changed else changed)

end Literate.Shell.Replace
