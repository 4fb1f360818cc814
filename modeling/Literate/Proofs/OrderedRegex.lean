import Literate.Proofs.Naming
import Literate.Regex.Basic

/-!
# Regular expressions with an order of choices

What a regular expression takes for its group depends on the order in which its choices are tried. A repetition is tried
with as many characters as there are, or with as few if it is lazy, and an optional part is tried before it is left out.
So all ways in which an expression matches at a place stand in an order (`OrderedRegex.ways`), and the match of a text
is the first way at the first place that has one (`OrderedRegex.submatch?`).

To find the first way one need not list them all: `OrderedRegex.first?` follows an expression with what comes after it,
and there is one equation for each kind of expression. An expression that begins with the start of the text matches
there or nowhere (`OrderedRegex.submatch?_start`).
-/

namespace Literate

open Text

/-- A regular expression with a group, whose repetitions are of single characters. -/
inductive OrderedRegex where
  | empty
  /-- The start of the text. -/
  | start
  /-- The end of the text. -/
  | stop
  | one (s : CharSet)
  | many (s : CharSet) (lazy : Bool)
  | optional (e : OrderedRegex)
  | group (e : OrderedRegex)
  | seq (e f : OrderedRegex)

/-- Where the matching of a text stands: the number of characters before, the characters to come, and those that the
group has taken. -/
structure Cursor where
  read : Nat
  rest : List Symbol
  group : List Symbol := []

namespace OrderedRegex

/-- The places to which a repetition leads, in the order in which they are tried. -/
def spans (s : CharSet) (lazy : Bool) : (read : Nat) → (rest : List Symbol) → List (Nat × List Symbol)
  | n, [] => [(n, [])]
  | n, r :: rest =>
    let further := if s r.char then spans s lazy (n + 1) rest else []
    if lazy then (n, r :: rest) :: further else further ++ [(n, r :: rest)]

/-- The ways in which an expression matches at a place, in the order in which they are tried. -/
def ways : OrderedRegex → Cursor → List Cursor
  | empty, c => [c]
  | start, c => if c.read = 0 then [c] else []
  | stop, c => if c.rest = [] then [c] else []
  | one s, c =>
    match c.rest with
    | [] => []
    | r :: rest => if s r.char then [{ c with read := c.read + 1, rest }] else []
  | many s lazy, c => (spans s lazy c.read c.rest).map fun p => { c with read := p.1, rest := p.2 }
  | optional e, c => e.ways c ++ [c]
  | group e, c => (e.ways c).map fun d => { d with group := c.rest.take (d.read - c.read) }
  | seq e f, c => (e.ways c).flatMap f.ways

section Ways

variable (s : CharSet) (lazy : Bool) (n : Nat) (r : Symbol) (rest taken : List Symbol) (e f : OrderedRegex) (c : Cursor)

theorem spans_nil : spans s lazy n [] = [(n, [])] := rfl

/-- A repetition goes on before it stops. -/
theorem spans_greedy :
    spans s false n (r :: rest) = (if s r.char then spans s false (n + 1) rest else []) ++ [(n, r :: rest)] := rfl

/-- A lazy repetition stops before it goes on. -/
theorem spans_lazy :
    spans s true n (r :: rest) = (n, r :: rest) :: (if s r.char then spans s true (n + 1) rest else []) := rfl

theorem ways_empty : empty.ways c = [c] := rfl

theorem ways_start : start.ways c = if c.read = 0 then [c] else [] := rfl

theorem ways_stop : stop.ways c = if c.rest = [] then [c] else [] := rfl

theorem ways_one_cons :
    (one s).ways ⟨n, r :: rest, taken⟩ = if s r.char then [⟨n + 1, rest, taken⟩] else [] := rfl

theorem ways_many :
    (many s lazy).ways c = (spans s lazy c.read c.rest).map fun p => { c with read := p.1, rest := p.2 } := rfl

theorem ways_optional : (optional e).ways c = e.ways c ++ [c] := rfl

theorem ways_group :
    (group e).ways c = (e.ways c).map fun d => { d with group := c.rest.take (d.read - c.read) } := rfl

theorem ways_seq : (seq e f).ways c = (e.ways c).flatMap f.ways := rfl

theorem ways_anchored : (seq start e).ways c = if c.read = 0 then e.ways c else [] := by
  rw [ways_seq, ways_start]
  split <;> simp

end Ways

/-- The places of a text, from left to right. -/
def places : (read : Nat) → List Symbol → List Cursor
  | n, [] => [⟨n, [], []⟩]
  | n, r :: rest => ⟨n, r :: rest, []⟩ :: places (n + 1) rest

/-- What the group takes in the first way at the first place at which an expression matches; nothing if the group is
left out. -/
def submatch? (e : OrderedRegex) (t : Text) : Option Text :=
  ((places 0 (symbols t)).flatMap e.ways).head?.map fun c => ofSymbols c.group

/-! ## The first way -/

section First

variable {α β γ : Type} {s : CharSet} {n : Nat} {rest taken : List Symbol}

theorem findSome?_flatMap (l : List α) (f : α → List β) (k : β → Option γ) :
    (l.flatMap f).findSome? k = l.findSome? fun a => (f a).findSome? k := by
  induction l with
  | nil => rfl
  | cons a l ih =>
    rw [List.flatMap_cons, List.findSome?_append, List.findSome?_cons, ih]
    cases (f a).findSome? k <;> rfl

/-- The answer of the first way in which an expression matches, and after which there is an answer. -/
def first? (e : OrderedRegex) (c : Cursor) (k : Cursor → Option γ) : Option γ := (e.ways c).findSome? k

variable (e f : OrderedRegex) (c : Cursor) (k : Cursor → Option γ)

theorem first?_eq : e.first? c k = (e.ways c).findSome? k := rfl

theorem first?_empty : empty.first? c k = k c := by
  rw [first?_eq, ways_empty]
  simp

theorem first?_stop : stop.first? c k = if c.rest = [] then k c else none := by
  rw [first?_eq, ways_stop]
  split <;> simp

theorem first?_seq : (seq e f).first? c k = e.first? c fun d => f.first? d k := findSome?_flatMap ..

theorem first?_optional : (optional e).first? c k = (e.first? c k).or (k c) := by
  rw [first?_eq, first?_eq, ways_optional, List.findSome?_append]
  simp

theorem first?_group :
    (group e).first? c k = e.first? c fun d => k { d with group := c.rest.take (d.read - c.read) } := by
  rw [first?_eq, ways_group, List.findSome?_map]
  rfl

theorem first?_one_nil : (one s).first? ⟨n, [], taken⟩ k = none := rfl

theorem first?_one_cons (r : Symbol) :
    (one s).first? ⟨n, r :: rest, taken⟩ k = if s r.char then k ⟨n + 1, rest, taken⟩ else none := by
  rw [first?_eq, ways_one_cons]
  split <;> simp

/-- A repetition gives the answer of the first place to which it leads. -/
theorem first?_many (lazy : Bool) : (many s lazy).first? c k =
    (spans s lazy c.read c.rest).findSome? fun p => k { c with read := p.1, rest := p.2 } := by
  rw [first?_eq, ways_many, List.findSome?_map]
  rfl

theorem first?_many_nil (lazy : Bool) : (many s lazy).first? ⟨n, [], taken⟩ k = k ⟨n, [], taken⟩ := by
  rw [first?_many, spans_nil]
  simp

theorem first?_greedy_cons (r : Symbol) : (many s false).first? ⟨n, r :: rest, taken⟩ k =
    (if s r.char then (many s false).first? ⟨n + 1, rest, taken⟩ k else none).or (k ⟨n, r :: rest, taken⟩) := by
  rw [first?_many, spans_greedy, List.findSome?_append, first?_many]
  split <;> simp

theorem first?_lazy_cons (r : Symbol) : (many s true).first? ⟨n, r :: rest, taken⟩ k =
    (k ⟨n, r :: rest, taken⟩).or (if s r.char then (many s true).first? ⟨n + 1, rest, taken⟩ k else none) := by
  rw [first?_many, spans_lazy, List.findSome?_cons, first?_many]
  cases k ⟨n, r :: rest, taken⟩ with
  | some x => rfl
  | none =>
    by_cases hr : s r.char = true
    · simp [hr]
    · simp [hr]

end First

/-! ## Repetitions and characters -/

section Repetitions

variable {γ : Type} {s : CharSet} {n : Nat} {rest taken : List Symbol} {k : Cursor → Option γ}

/-- What comes after a repetition has an answer where the repetition can go on no further: this is the first one. -/
theorem first?_greedy {x : γ}
    (h : k ⟨n + (rest.takeWhile (s ·.char)).length, rest.dropWhile (s ·.char), taken⟩ = some x) :
    (many s false).first? ⟨n, rest, taken⟩ k = some x := by
  induction rest generalizing n with
  | nil => rwa [first?_many_nil]
  | cons r rest ih =>
    rw [first?_greedy_cons]
    by_cases hr : s r.char = true
    · simp only [List.takeWhile_cons, List.dropWhile_cons, hr, if_true, List.length_cons] at h
      rw [if_pos hr, ih (by rwa [Nat.add_right_comm, Nat.add_assoc]), Option.some_or]
    · simp only [List.takeWhile_cons, List.dropWhile_cons, if_neg hr, List.length_nil, Nat.add_zero] at h
      rw [if_neg hr, Option.none_or]
      exact h

/-- A repetition up to the end of the text takes all that is left, or nothing does. -/
theorem first?_greedy_stop (n : Nat) (rest taken : List Symbol) (k : Cursor → Option γ) :
    (seq (many s false) stop).first? ⟨n, rest, taken⟩ k =
      if rest.all (s ·.char) then k ⟨n + rest.length, [], taken⟩ else none := by
  rw [first?_seq]
  induction rest generalizing n with
  | nil => simp [first?_many_nil, first?_stop]
  | cons r rest ih =>
    rw [first?_greedy_cons, ih, first?_stop, if_neg (List.cons_ne_nil r rest), Option.or_none, List.all_cons,
      List.length_cons]
    by_cases hr : s r.char = true
    · rw [if_pos hr, hr, Bool.true_and, Nat.add_right_comm, Nat.add_assoc]
    · rw [if_neg hr, Bool.eq_false_iff.mpr hr, Bool.false_and, if_neg Bool.false_ne_true]

/-- A lazy repetition goes on as long as what comes after it has no answer. -/
theorem first?_lazy {core after : List Symbol} (hcore : ∀ r ∈ core, s r.char)
    (hnone : ∀ before r more, core = before ++ r :: more →
      k ⟨n + before.length, r :: more ++ after, taken⟩ = none) {x : γ}
    (h : k ⟨n + core.length, after, taken⟩ = some x) :
    (many s true).first? ⟨n, core ++ after, taken⟩ k = some x := by
  induction core generalizing n with
  | nil =>
    rw [List.nil_append]
    cases after with
    | nil => rwa [first?_many_nil]
    | cons r after =>
      rw [first?_lazy_cons, show k ⟨n, r :: after, taken⟩ = some x from h, Option.some_or]
  | cons r core ih =>
    obtain ⟨hr, hcore⟩ := List.forall_mem_cons.mp hcore
    rw [List.cons_append, first?_lazy_cons, show k ⟨n, r :: (core ++ after), taken⟩ = none from hnone [] r core rfl,
      Option.none_or, if_pos hr]
    refine ih hcore (fun before q more heq => ?_) ?_
    · have hbefore := hnone (r :: before) q more (by rw [heq, List.cons_append])
      rwa [List.length_cons, ← Nat.add_assoc, Nat.add_right_comm] at hbefore
    · rwa [List.length_cons, ← Nat.add_assoc, Nat.add_right_comm] at h

/-- The expression of these characters, up to case. -/
def literal : List Char → OrderedRegex
  | [] => empty
  | c :: cs => seq (one (Unicode.foldEq c)) (literal cs)

/-- What comes after some characters begins where these are dropped from the text. -/
theorem first?_literal (cs : List Char) (n : Nat) (t : Text) (k : Cursor → Option γ) :
    (literal cs).first? ⟨n, symbols t, taken⟩ k =
      (dropFold? cs t).bind fun u => k ⟨n + cs.length, symbols u, taken⟩ := by
  induction cs generalizing n t with
  | nil => rw [literal, first?_empty, dropFold?]; rfl
  | cons c cs ih =>
    cases t with
    | nil => rw [literal, first?_seq]; rfl
    | cons b t =>
      rw [literal, first?_seq, symbols_cons, first?_one_cons, ih, dropFold?, List.length_cons]
      split
      · rw [Nat.add_assoc, Nat.add_comm 1]
      · rfl

/-- An expression that begins with the start of the text matches there or nowhere. -/
theorem submatch?_start (e : OrderedRegex) (t : Text) :
    (seq start e).submatch? t = (e.first? ⟨0, symbols t, []⟩ some).map fun c => ofSymbols c.group := by
  have hlater : ∀ rs n, (places (n + 1) rs).flatMap (seq start e).ways = [] := by
    intro rs
    induction rs with
    | nil => exact fun n => by simp [places, ways_anchored]
    | cons r rs ih => exact fun n => by simp [places, ways_anchored, ih]
  have hfirst : (places 0 (symbols t)).flatMap (seq start e).ways = e.ways ⟨0, symbols t, []⟩ := by
    cases symbols t with
    | nil => simp [places, ways_anchored]
    | cons r rs => simp [places, ways_anchored, hlater]
  have hhead : ∀ l : List Cursor, l.findSome? some = l.head? := by
    intro l
    cases l <;> rfl
  rw [submatch?, hfirst, first?_eq, hhead]

end Repetitions

end OrderedRegex

end Literate
