import Literate.Yaml.Lexer

/-!
# Groups of tokens

Before nodes are read, tokens that belong together by their neighbours and lines are grouped: a block with its content, an
anchor with its name and a value on its line, a tag with a scalar on its line, a key with its colon, and a key with a scalar
on its line. Then the groups are divided into documents.
-/

namespace Literate.Yaml

open Text

/-- A token, or some that belong together. -/
inductive Group where
  | token (t : Token)
  | block (head : Token) (content : Option Token)
  /-- An anchor whose value follows. -/
  | anchorName (mark : Token) (name : Group)
  | anchor (mark : Token) (name value : Group)
  | reference (mark : Token) (name : Group)
  | tagged (tag : Token) (value : Group)
  /-- A key, after a question mark or before a colon or both. -/
  | key (question : Option Token) (name : Group) (colon : Option Token)
  /-- A key with its value. -/
  | pair (key value : Group)
  | directive (mark : Token) (name : Group) (values : List Group)

namespace Group

/-- The first token of a group. -/
def first : Group → Token
  | token t => t
  | block t _ => t
  | anchorName t _ => t
  | anchor t _ _ => t
  | reference t _ => t
  | tagged t _ => t
  | key (some t) _ _ => t
  | key none g _ => g.first
  | pair g _ => g.first
  | directive t _ _ => t

/-- The kind of the first token of a group. -/
def kind (g : Group) : Kind := g.first.kind

/-- The line on which a group begins. -/
def line (g : Group) : Nat := g.first.place.line

/-- The column in which a group begins. -/
def column (g : Group) : Nat := g.first.place.column

/-- Whether a group is a key, with or without a value. -/
def isKey : Group → Bool
  | key _ _ _ => true
  | pair _ _ => true
  | _ => false

/-- Whether a group can belong to a mapping. -/
def isMapping : Group → Bool
  | key _ _ _ => true
  | pair _ _ => true
  | token t => t.kind = .openBrace || t.kind = .closeBrace
  | _ => false

/-- Whether a group is a scalar. -/
def isScalar (g : Group) : Bool := !g.isKey && g.kind.isScalar

/-- Whether a group is an anchor whose value follows. -/
def isAnchorName : Group → Bool
  | anchorName _ _ => true
  | _ => false

/-- Whether a group is a tag with a value. -/
def isTagged : Group → Bool
  | tagged _ _ => true
  | _ => false

/-! ## Neighbours -/

/-- Blocks with the tokens after their heads. -/
def blocks : List Token → List Group
  | [] => []
  | [t] => [if t.kind = .literal ∨ t.kind = .folded then block t none else token t]
  | t :: content :: rest =>
    if t.kind = .literal ∨ t.kind = .folded then block t (some content) :: blocks rest
    else token t :: blocks (content :: rest)

/-- Anchors and aliases with their names. An anchor needs something after its name, which is no item on its line, and which
is its value if it is a scalar on its line. -/
def anchors? : List Group → Option (List Group)
  | [] => some []
  | [g] => if g.kind = .anchor ∨ g.kind = .reference then none else some [g]
  | [g, name] =>
    if g.kind = .anchor then none
    else if g.kind = .reference then some [reference g.first name]
    else (anchors? [name]).map (g :: ·)
  | g :: name :: value :: rest =>
    if g.kind = .anchor then
      if g.line = value.line ∧ value.kind = .dash then none
      else if g.line = value.line ∧ value.isScalar then (anchors? rest).map (anchor g.first name value :: ·)
      else (anchors? (value :: rest)).map (anchorName g.first name :: ·)
    else if g.kind = .reference then (anchors? (value :: rest)).map (reference g.first name :: ·)
    else (anchors? (name :: value :: rest)).map (g :: ·)

/-- Whether a tag is grouped with what follows it. The tag for merging has to stand before the key for merging. -/
def joinsTag? (tag : Group) (value : Group) : Option Bool :=
  let t := tag.first.value
  if tag.line ≠ value.line ∨ value.isAnchorName then some false
  else if startsWith t "!!" then
    if isTagOf scalarTags t then some value.isScalar
    else if isTagOf ["!!merge"] t then if value.kind = .mergeKey then some true else none
    else some false
  else some !(value.kind ∈ [.openBrace, .closeBrace, .openBracket, .dash])

/-- Tags with their values. -/
def tags? : List Group → Option (List Group)
  | [] => some []
  | [g] => some [g]
  | g :: value :: rest =>
    if g.kind = .tag then
      (joinsTag? g value).bind fun joins =>
        if joins then (tags? rest).map (tagged g.first value :: ·) else (tags? (value :: rest)).map (g :: ·)
    else (tags? (value :: rest)).map (g :: ·)

/-- Anchors with tagged values on their lines. -/
def anchoredTags? : List Group → Option (List Group)
  | [] => some []
  | [g] => if g.isAnchorName then none else some [g]
  | g :: value :: rest =>
    match g with
    | anchorName mark name =>
      if g.line = value.line ∧ value.isTagged then (anchoredTags? rest).map (anchor mark name value :: ·)
      else (anchoredTags? (value :: rest)).map (g :: ·)
    | _ => (anchoredTags? (value :: rest)).map (g :: ·)

/-- Keys after question marks. -/
def questions? : List Group → Option (List Group)
  | [] => some []
  | [g] => if g.kind = .question then none else some [g]
  | g :: name :: rest =>
    if g.kind = .question then (questions? rest).map (key (some g.first) name none :: ·)
    else (questions? (name :: rest)).map (g :: ·)

/-- A group as a key before a colon. -/
def withColon? (colon : Token) (g : Group) : Option Group :=
  match g with
  | key _ _ (some _) => none
  | key question name none => some (key question name (some colon))
  | g => if g.kind.isKey then some (key none g (some colon)) else none

/-- Keys before colons; `done` holds the groups before, the last one first. -/
def colons? : (done : List Group) → List Group → Option (List Group)
  | done, [] => some done.reverse
  | done, g :: rest =>
    if g.kind = .colon then
      match done with
      | [] => none
      | k :: done => (withColon? g.first k).bind fun k => colons? (k :: done) rest
    else colons? (g :: done) rest

/-- Whether a group is the value of a key on the same line. -/
def joinsKey (k value : Group) : Bool :=
  k.line = value.line && !value.isAnchorName && (value.isScalar || value.isTagged)

/-- Keys with scalars on their lines. -/
def pairs : List Group → List Group
  | [] => []
  | [g] => [g]
  | g :: value :: rest =>
    match g with
    | key _ _ _ => if joinsKey g value then pair g value :: pairs rest else g :: pairs (value :: rest)
    | _ => g :: pairs (value :: rest)

/-! ## Directives -/

/-- A directive whose name and values are being read. -/
structure Opened where
  mark : Token
  name : Option Group := none
  /-- The values, the last one first. -/
  values : List Group := []

/-- Directives with their names and with what else stands on their lines. The start of a document has to follow. -/
def directives? : (opened : Option Opened) → List Group → Option (List Group)
  | none, [] => some []
  | some _, [] => none
  | none, g :: rest =>
    if g.kind = .directive then directives? (some { mark := g.first }) rest else (directives? none rest).map (g :: ·)
  | some d, g :: rest =>
    match d.name with
    | none => directives? (some { d with name := some g }) rest
    | some name =>
      if g.line = d.mark.place.line then directives? (some { d with values := g :: d.values }) rest
      else if g.kind = .documentStart then
        (directives? none rest).map fun gs => directive d.mark name d.values.reverse :: g :: gs
      else none

end Group

/-! ## Documents -/

/-- The groups of a document, and whether its end is marked. -/
structure Document where
  groups : List Group
  isEnded : Bool

namespace Document

/-- Divides groups into documents; `done` holds the groups of the current one, the last one first. Two marks for the start
of a document in a row end the text, no key and no item stands on the line of such a mark, and no scalar stands after the
mark for the end of a document. -/
def divide? : (done : List Group) → List Group → Option (List Document)
  | done, [] => some [⟨done.reverse, false⟩]
  | done, g :: rest =>
    if g.kind = .documentStart then
      match rest.head? with
      | none => some [⟨done.reverse, false⟩]
      | some next =>
        if next.kind = .documentStart then some [⟨done.reverse, false⟩]
        else if g.line = next.line ∧ (next.isKey ∨ next.kind = .dash) then none
        else (divide? [] rest).map (⟨done.reverse, false⟩ :: ·)
    else if g.kind = .documentEnd then
      match rest.head? with
      | none => some [⟨done.reverse, true⟩]
      | some next => if next.isScalar then none else (divide? [] rest).map (⟨done.reverse, true⟩ :: ·)
    else divide? (g :: done) rest

/-- The documents of some tokens. -/
def ofTokens? (ts : List Token) : Option (List Document) := do
  let gs ← Group.anchors? (Group.blocks ts)
  let gs ← Group.anchoredTags? (← Group.tags? gs)
  let gs ← Group.colons? [] (← Group.questions? gs)
  divide? [] (← Group.directives? none (Group.pairs gs))

end Document

end Literate.Yaml
