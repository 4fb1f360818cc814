/-!
# Integers of 64 bits

Which integers fit in 64 bits with a sign, and the one that an integer beyond them wraps around to.
-/

namespace Literate.Word

/-- The number of words of 64 bits. -/
def count : Nat := 18446744073709551616

/-- Half of the words; a signed word lies between its negative and itself, which it does not reach. -/
def half : Nat := 9223372036854775808

/-- Whether an integer fits in 64 bits with a sign. -/
def fits (n : Int) : Bool := -(half : Int) ≤ n && n < half

/-- The integer, if it fits in 64 bits. -/
def ofInt? (n : Int) : Option Int := if fits n then some n else none

/-- The signed word that an integer wraps around to. -/
def wrap (n : Int) : Int := n.bmod count

end Literate.Word
