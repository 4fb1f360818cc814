import Literate.Element
import Literate.Sort
import Literate.Word

/-!
# Requests

A request asks for the text of a chunk or stream to be displayed, written to a file or fed to a command. Requests are
queued while documents are read and carried out after expansion, in six groups.
-/

namespace Literate

open Text

/-- What a request asks for. The actions are numbered; a number without a meaning is an `other` action. -/
inductive Action where
  | display
  | output
  | pipe
  | other (code : Int)
deriving DecidableEq, Repr

namespace Action

/-- The action with a number. -/
def ofCode (n : Int) : Action :=
  if n = 0 then display else if n = 1 then output else if n = 2 then pipe else other n

/-- The number of an action. -/
def code : Action → Int
  | display => 0
  | output => 1
  | pipe => 2
  | other n => n

/-- The name of an action. -/
def text : Action → Text
  | display => "display"
  | output => "output"
  | pipe => "pipe"
  | other n => "Action(" ++ ofInt n ++ ")"

end Action

/-- Where a request comes from. -/
inductive Origin where
  | directive
  | command
  | other (code : Int)
deriving DecidableEq, Repr

namespace Origin

/-- The origin with a number. -/
def ofCode (n : Int) : Origin :=
  if n = 0 then directive else if n = 1 then command else other n

/-- The name of an origin. -/
def text : Origin → Text
  | directive => "directive"
  | command => "command"
  | other n => "Origin(" ++ ofInt n ++ ")"

end Origin

/-- A request. The target is a file name or a command, and empty for a display. -/
structure Request where
  action : Action
  ref : Ref
  target : Text := []
  origin : Origin
  position : Position := .zero
deriving DecidableEq

namespace Request

/-- The group of a request: actions in the order of their numbers, and streams before chunks. Groups are words of 64
bits. -/
def group (r : Request) : Int :=
  Word.wrap (r.action.code * 2) + (match r.ref.kind with
    | .chunk => 1
    | .stream => 0)

/-- Whether a request comes before another: the difference of their groups, as a word of 64 bits, is negative. -/
def before (a b : Request) : Bool := Word.wrap (a.group - b.group) < 0

/-- Whether the group of a request is so small that differences of groups are words. -/
def isOrdinary (r : Request) : Bool := r.group.natAbs < Word.half / 2

/-- Whether a request is a display of a reference. -/
def displays (r : Request) (ref : Ref) : Bool := r.action = .display ∧ r.ref = ref

/-- Queues a request; a display of what is to be displayed already is dropped. -/
def enqueue (queue : Array Request) (r : Request) : Array Request :=
  if r.action = .display ∧ queue.any (·.displays r.ref) then queue else queue.push r

/-- The queued requests in the order of their groups; within a group the order is kept. Groups so far apart that their
difference is no word are in no order, and then the result is what comparing them leads to. -/
def arrange (queue : Array Request) : List Request :=
  if queue.all isOrdinary then queue.toList.mergeSort fun a b => a.group ≤ b.group
  else Sort.stable before queue.toList

end Request

end Literate
