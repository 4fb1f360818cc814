import Literate.Unicode.Grapheme.Table

/-!
# Graphemes

Characters join with their neighbours to make up what a reader takes for one character: a letter with its marks, the
letters of a Hangul syllable, two regional indicators of a flag, pictographs with a joiner between them.

`Joint.join?` says whether a character joins with what is before it.
-/

namespace Literate.Unicode

/-- How a character joins with its neighbours. -/
inductive GraphemeBreak where
  | other | carriageReturn | lineFeed | control | extend | joiner | regional | prepend | spacing
  | leading | vowel | trailing | leadingVowel | leadingVowelTrailing
deriving DecidableEq, Repr

/-- How a Hangul syllable joins with its neighbours: every twenty-eighth has no trailing consonant. -/
def syllableBreak (n : Nat) : GraphemeBreak :=
  if (n - 0xAC00) % 28 = 0 then .leadingVowel else .leadingVowelTrailing

/-- How a code point joins with its neighbours. -/
def graphemeBreak (n : Nat) : GraphemeBreak :=
  if n = 0x0D then .carriageReturn
  else if n = 0x0A then .lineFeed
  else if n = 0x200D then .joiner
  else if 0x1F1E6 ≤ n ∧ n ≤ 0x1F1FF then .regional
  else if (0x1100 ≤ n ∧ n ≤ 0x115F) ∨ (0xA960 ≤ n ∧ n ≤ 0xA97C) then .leading
  else if (0x1160 ≤ n ∧ n ≤ 0x11A7) ∨ (0xD7B0 ≤ n ∧ n ≤ 0xD7C6) then .vowel
  else if (0x11A8 ≤ n ∧ n ≤ 0x11FF) ∨ (0xD7CB ≤ n ∧ n ≤ 0xD7FB) then .trailing
  else if 0xAC00 ≤ n ∧ n ≤ 0xD7A3 then syllableBreak n
  else if graphemeControls.contains n then .control
  else if graphemeExtenders.contains n then .extend
  else if graphemePrefixes.contains n then .prepend
  else if graphemeSpacing.contains n then .spacing
  else .other

/-- What matters of the characters before a place: how the last one joins, whether it closes a pictograph with marks and
a joiner after them, and whether an odd number of regional indicators comes last. -/
structure Joint where
  last : GraphemeBreak
  /-- The last characters are a pictograph and marks. -/
  pictograph : Bool
  /-- The last characters are a pictograph, marks and a joiner. -/
  joined : Bool
  /-- The last regional indicator waits for another. -/
  half : Bool

namespace Joint

/-- The place after a first character. -/
def start (n : Nat) : Joint :=
  let b := graphemeBreak n
  ⟨b, pictographs.contains n, false, b = .regional⟩

/-- Whether the last character joins with one that joins in the given way. -/
def joins (j : Joint) (b : GraphemeBreak) (isPictograph : Bool) : Bool :=
  match j.last, b with
  | .carriageReturn, .lineFeed => true
  | .carriageReturn, _ | .lineFeed, _ | .control, _ => false
  | _, .carriageReturn | _, .lineFeed | _, .control => false
  | .leading, .leading | .leading, .vowel | .leading, .leadingVowel | .leading, .leadingVowelTrailing => true
  | .leadingVowel, .vowel | .leadingVowel, .trailing | .vowel, .vowel | .vowel, .trailing => true
  | .leadingVowelTrailing, .trailing | .trailing, .trailing => true
  | _, .extend | _, .joiner | _, .spacing => true
  | .prepend, _ => true
  | .regional, .regional => j.half
  | _, _ => j.joined && isPictograph

/-- The place after one more character, if that joins with what is before it. -/
def join? (j : Joint) (n : Nat) : Option Joint :=
  let b := graphemeBreak n
  let p := pictographs.contains n
  if j.joins b p then
    some ⟨b, p || (j.pictograph && b = .extend), j.pictograph && b = .joiner, b = .regional && !j.half⟩
  else none

end Joint

end Literate.Unicode
