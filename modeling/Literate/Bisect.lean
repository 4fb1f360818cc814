/-!
# Search by halving

`bisect stop low high` is the first of the numbers from `low` up to `high` at which `stop` holds, if `stop` holds from
some number on.
-/

namespace Literate

/-- The first of the numbers from `low` up to `high` at which `stop` holds; `high` if there is none. -/
def bisect (stop : Nat → Bool) (low high : Nat) : Nat :=
  if h : low < high then
    let middle := (low + high) / 2
    if stop middle then bisect stop low middle else bisect stop (middle + 1) high
  else low
termination_by high - low

end Literate
