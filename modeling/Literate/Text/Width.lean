import Literate.Text.Basic
import Literate.Unicode.Grapheme
import Literate.Unicode.Width

/-!
# Width of texts

The number of columns that a text takes up on a terminal. Control sequences take up none: they begin with an escape
character or with a byte from 0x80 to 0x9F, and `Control.next` follows them byte by byte. Any other character begins a
grapheme, which is as wide as its first character.

This is how the package `ansi` counts columns. Nothing is assumed of its count where something is proved of what is laid
out by it: any other one would do.
-/

namespace Literate.Text

/-! ## Control sequences -/

/-- Where the reading of a control sequence stands. -/
inductive Control where
  /-- Outside of any sequence. -/
  | ground
  /-- After an escape character. -/
  | escape
  /-- After an escape character and intermediate characters. -/
  | escapeMore
  /-- At the start of a control sequence, among its parameters, or among its intermediate characters. -/
  | sequence | sequenceParameters | sequenceMore
  /-- At the start of a device control, among its parameters, or among its intermediate characters. -/
  | device | deviceParameters | deviceMore
  /-- In the text of a device control. -/
  | deviceText
  /-- In a command of the operating system. -/
  | command
  /-- In some other string. -/
  | string
  /-- At the start of a character of several bytes. -/
  | character
deriving DecidableEq, Repr

namespace Control

/-- Whether a byte is a control character that most sequences pass over. -/
def isQuiet (b : UInt8) : Bool := b < 0x20 || b == 0x7F

/-- The state after a byte that means the same everywhere. -/
def anywhere (b : UInt8) : Control :=
  if b == 0x1B then escape
  else if b == 0x90 then device
  else if b == 0x9B then sequence
  else if b == 0x9D then command
  else if b == 0x98 || b == 0x9E || b == 0x9F then string
  else if 0xC2 ≤ b && b ≤ 0xF4 then character
  else ground

/-- The state after a byte of an escape sequence. -/
def afterEscape (b : UInt8) : Control :=
  if isQuiet b then escape
  else if b ≤ 0x2F then escapeMore
  else if b == byte '[' then sequence
  else if b == byte ']' then command
  else if b == byte 'P' then device
  else if b == byte 'X' || b == byte '^' || b == byte '_' then string
  else ground

/-- The state after a byte below 0x80 that ends no sequence everywhere. -/
def inside (s : Control) (b : UInt8) : Control :=
  match s with
  | escape => afterEscape b
  | escapeMore => if b < 0x30 || b == 0x7F then escapeMore else ground
  | sequence =>
    if isQuiet b then sequence else if b < 0x30 then sequenceMore else if b < 0x40 then sequenceParameters else ground
  | sequenceParameters =>
    if isQuiet b then sequenceParameters
    else if b < 0x30 then sequenceMore else if b < 0x40 then sequenceParameters else ground
  | sequenceMore => if b < 0x30 || b == 0x7F then sequenceMore else ground
  | device =>
    if 0x08 ≤ b && b ≤ 0x0D then deviceText
    else if isQuiet b then device
    else if b < 0x30 then deviceMore else if b < 0x40 then deviceParameters else deviceText
  | deviceParameters =>
    if isQuiet b then deviceParameters
    else if b < 0x30 then deviceMore else if b < 0x40 then deviceParameters else deviceText
  | deviceMore => if b < 0x30 || b == 0x7F then deviceMore else deviceText
  | deviceText => deviceText
  | command => if b == 0x07 then ground else command
  | string => string
  | ground | character => ground

/-- The state after a byte. -/
def next (s : Control) (b : UInt8) : Control :=
  if b == 0x18 || b == 0x1A then ground
  else if b == 0x1B then if s = device then deviceText else escape
  else if b < 0x80 then s.inside b
  else match s with
    | deviceText | command => if b == 0x9C then ground else s
    | _ => anywhere b

/-- Whether a byte is shown. -/
def shows (s : Control) (b : UInt8) : Bool := s = ground && 0x20 ≤ b && b < 0x7F

end Control

/-! ## Graphemes -/

/-- The first character of a text as it is measured: a code point, or bytes that are none. -/
inductive Head where
  /-- A code point of some bytes. -/
  | code (n size : Nat)
  /-- Bytes that are no character. -/
  | broken (size : Nat)
  /-- The beginning of a character that the text ends in. -/
  | cut

namespace Head

/-- Whether a byte continues a character. -/
def isContinuation (b : UInt8) : Bool := 0x80 ≤ b && b < 0xC0

/-- The six bits of a continuation. -/
def low (b : UInt8) : Nat := (b &&& 0x3F).toNat

/-- The code point of a number between bounds. -/
def within (n size least : Nat) : Head :=
  if n < least ∨ 0x10FFFF < n ∨ (0xD800 ≤ n ∧ n < 0xE000) then broken size else code n size

/-- The first character of a text that begins with a byte. -/
def first (b : UInt8) (rest : Text) : Head :=
  if b < 0x80 then code b.toNat 1
  else if b < 0xC2 ∨ 0xF8 ≤ b then broken 1
  else if b < 0xE0 then
    match rest with
    | c :: _ => if isContinuation c then within ((b &&& 0x1F).toNat * 64 + low c) 2 0x80 else broken 1
    | _ => cut
  else if b < 0xF0 then
    match rest with
    | c :: d :: _ =>
      if !isContinuation c then broken 1
      else if !isContinuation d then broken 2
      else within (((b &&& 0x0F).toNat * 64 + low c) * 64 + low d) 3 0x800
    | _ => cut
  else
    match rest with
    | c :: d :: e :: _ =>
      if !isContinuation c then broken 1
      else if !isContinuation d then broken 2
      else if !isContinuation e then broken 3
      else within ((((b &&& 0x07).toNat * 64 + low c) * 64 + low d) * 64 + low e) 4 0x10000
    | _ => cut

/-- How a character joins with what follows it; bytes that are no character join as an ordinary one does. -/
def joint : Head → Unicode.Joint
  | code n _ => .start n
  | _ => ⟨.other, false, false, false⟩

/-- Whether a character joins with what is before it. -/
def join? (j : Unicode.Joint) : Head → Option Unicode.Joint
  | code n _ => j.join? n
  | _ => if j.joins .other false then some ⟨.other, false, false, false⟩ else none

/-- The number of bytes of a character at the start of a text. -/
def size (t : Text) : Head → Nat
  | code _ n | broken n => n
  | cut => t.length

end Head

/-- The number of bytes of a text that belong to the grapheme before it, after the first `skip` bytes. A character that
the text ends in before it is complete belongs to what is before it. -/
def joinedLength : (skip : Nat) → Unicode.Joint → Text → Nat
  | _, _, [] => 0
  | skip + 1, j, _ :: rest => joinedLength skip j rest + 1
  | 0, j, b :: rest =>
    match Head.first b rest with
    | .cut => rest.length + 1
    | u =>
      match u.join? j with
      | some j => joinedLength (u.size (b :: rest) - 1) j rest + 1
      | none => 0

/-- The selector that asks for the pictographic form of the character before it. -/
def pictographSelector : Text := [0xEF, 0xB8, 0x8F]

/-- The number of columns of a grapheme: that of its first character, or two if a selector follows that asks for its
pictographic form. -/
def graphemeColumns (first : Head) (grapheme : Text) : Nat :=
  match first with
  | .code n size =>
    if startsWith (grapheme.drop size) pictographSelector then 2 else Unicode.width (Char.ofNat n)
  | .broken size => if startsWith (grapheme.drop size) pictographSelector then 2 else 1
  | .cut => 1

/-! ## Texts -/

/-- The columns of a text after its first `skip` bytes. -/
def columnsFrom : (skip : Nat) → Control → Text → Nat
  | _, _, [] => 0
  | skip + 1, s, _ :: rest => columnsFrom skip s rest
  | 0, s, b :: rest =>
    match s.next b with
    | .character =>
      let first := Head.first b rest
      let own := first.size (b :: rest)
      let length := joinedLength (own - 1) first.joint rest + 1
      graphemeColumns first ((b :: rest).take length) + columnsFrom (length - 1) .ground rest
    | next => (if s.shows b then 1 else 0) + columnsFrom 0 next rest

/-- The number of columns of a text. -/
def columns (t : Text) : Nat := columnsFrom 0 .ground t

end Literate.Text
