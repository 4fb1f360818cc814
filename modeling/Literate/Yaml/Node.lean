import Literate.Yaml.Group

/-!
# Nodes

A document is a tree of nodes: scalars, sequences and mappings, with anchors, aliases and tags. `Node.ofDocuments?` reads the
nodes of documents. Columns say how deep a node stands, except between brackets, and a key stands once in a mapping.
-/

namespace Literate.Yaml

open Text

/-- A node of a document. -/
inductive Node where
  /-- A scalar, with the text by which it is told apart from other keys. -/
  | scalar (label : Text) (d : Datum)
  /-- The key whose value is merged into the mapping. -/
  | mergeKey
  | reference (name : Text)
  | anchor (place : Place) (name : Text) (value : Node)
  | tagged (place : Place) (tag : Text) (value : Node)
  | sequence (items : List Node)
  | mapping (entries : List (Node × Node))
  | directive

namespace Node

/-- The scalar that stands for nothing. -/
def null : Node := scalar "null" .null

/-- The text by which a key is told apart from others. -/
def label : Node → Text
  | scalar t _ => t
  | mergeKey => "<<"
  | anchor _ _ n => n.label
  | tagged _ _ n => n.label
  | _ => []

/-- Whether a node is an anchor. -/
def isAnchor : Node → Bool
  | anchor _ _ _ => true
  | _ => false

/-- Whether a node can be a scalar. -/
def isScalar : Node → Bool
  | sequence _ => false
  | mapping _ => false
  | _ => true

/-- Whether an anchor stands before a tag on a later line that is not right of a column. -/
def hasLateTag (column : Nat) : Node → Bool
  | anchor p _ (tagged q _ _) => p.line ≠ q.line && q.column ≤ column
  | _ => false

end Node

/-! ## Keys -/

/-- A step from a node to one below it. -/
inductive Step where
  | key (label : Text)
  | index (n : Nat)
deriving DecidableEq

/-- What is known while nodes are read. -/
structure Notes where
  /-- The paths of the keys of the document. -/
  keys : List (List Step) := []
  /-- Whether a directive has said the version. -/
  hasVersion : Bool := false
  /-- Whether a directive has changed the meaning of tags. -/
  hasTags : Bool := false

/-- Reading that takes notes. -/
abbrev Reading := StateT Notes Option

/-- Where a node is read: the path from the root, the last step first, and whether it is between brackets. -/
structure Site where
  path : List Step := []
  inFlow : Bool := false

/-- The site of a value below a key. -/
def Site.below (s : Site) (key : Node) : Site := { s with path := .key key.label :: s.path }

/-- The site of an item of a sequence. -/
def Site.item (s : Site) (n : Nat) : Site := { s with path := .index n :: s.path }

/-- Whether the source of a key has a line end within it; between brackets those after a plain key do not count. -/
def hasBreak (inFlow : Bool) (t : Token) : Bool :=
  let isGap := fun (c : Char) => c = ' ' || isBreak c
  let source := t.source.dropWhile isGap
  (if inFlow ∧ t.kind = .string then Block.dropEnd isGap source else source).any isBreak

/-- Notes the key of a mapping, which is new and on one line. -/
def noteKey (s : Site) (first : Token) (key : Node) : Reading Node := do
  let notes ← get
  let path := (s.below key).path
  if notes.keys.contains path || hasBreak s.inFlow first then failure
  else
    set { notes with keys := path :: notes.keys }
    return key

/-! ## Scalars and directives -/

/-- The name of an anchor, an alias or a directive. -/
def nameOf? : Group → Option Text
  | .token t => if t.kind ∈ [.string, .typed, .quoted, .mergeKey] then some t.value else none
  | .block head _ => some head.value
  | _ => none

/-- The scalar of a block. -/
def blockNode? (head : Token) : (content : Option Token) → Option Node
  | none => some (.scalar head.value (.text []))
  | some t => if t.kind ∈ [.string, .quoted] then some (.scalar head.value (.text t.value)) else none

/-- What a tag without a value stands for. -/
def defaultOf (tag : Text) : Node :=
  if isTagOf ["!!int", "!!float"] tag then .scalar "0" (.int 0)
  else if isTagOf ["!!bool"] tag then .scalar "false" (.bool false)
  else if isTagOf ["!!null"] tag then .null
  else .scalar [] (.text [])

/-- The versions that a directive can say. -/
def versions : List String := ["1.0", "1.1", "1.2", "1.3"]

/-- Obeys a directive. The version is said once. -/
def obey (name : Text) (values : List Group) : Reading Node := do
  let notes ← get
  match values.map (·.first.value) with
  | [] => return .directive
  | [version] =>
    if name = ("YAML" : Text) then
      if notes.hasVersion || !versions.any (fun v => ofString v = version) then failure
      else set { notes with hasVersion := true }
    else if name = ("TAG" : Text) then failure
    return .directive
  | [tag, _] =>
    if name = ("YAML" : Text) then failure
    else if name = ("TAG" : Text) ∧ tag = ("!!" : Text) then set { notes with hasTags := true }
    return .directive
  | _ => if name = ("YAML" : Text) ∨ name = ("TAG" : Text) then failure else return .directive

/-- The kind of the first group. -/
def nextKind? (gs : List Group) : Option Kind := gs.head?.map (·.kind)

/-- Whether the next group ends an entry between braces. -/
def endsEntry (gs : List Group) : Bool := nextKind? gs = some .closeBrace || nextKind? gs = some .comma

/-- Whether an entry on one line ends before the next group. -/
def endsPair (s : Site) (g : Group) (gs : List Group) : Bool :=
  gs.head?.all fun next =>
    next.column ≤ g.column || (s.inFlow && (next.kind = .comma || next.kind = .closeBracket))

/-! ## Nodes -/

mutual

/-- The node that begins with a group, and the groups after it. -/
def node? : (fuel : Nat) → Site → Group → List Group → Reading (Node × List Group)
  | 0, _, _, _ => failure
  | fuel + 1, s, g, rest =>
    match g with
    | .key _ _ _ => mapping? fuel s [] g rest
    | .pair _ _ => mapping? fuel s [] g rest
    | .directive _ name values => do return (← obey (← nameOf? name) values, rest)
    | .anchorName mark name => anchorBefore? fuel s mark name rest
    | .tagged tag value => do return ((← tag? fuel s tag [value]).1, rest)
    | .token t =>
      match t.kind with
      | .tag => tag? fuel s t rest
      | .openBrace => flowMapping? fuel { s with inFlow := true } [] true rest
      | .openBracket => flowSequence? fuel { s with inFlow := true } [] true rest
      | .dash => sequence? fuel s g [] (g :: rest)
      | _ => do return ((← scalar? fuel s g rest).1, rest)
    | _ => do return ((← scalar? fuel s g rest).1, rest)

/-- The scalar that a group is, and the groups from the one that ends it. -/
def scalar? : (fuel : Nat) → Site → Group → List Group → Reading (Node × List Group)
  | 0, _, _, _ => failure
  | fuel + 1, s, g, rest =>
    match g with
    | .anchor mark name value => do
      let (n, _) ← anchorBefore? fuel s mark name [value]
      return (n, g :: rest)
    | .anchorName mark name => anchorBefore? fuel s mark name rest
    | .reference _ name => do return (.reference (← nameOf? name), g :: rest)
    | .block head content => do return (← blockNode? head content, g :: rest)
    | .tagged tag value => do return ((← scalarTag? fuel s tag [value]).1, g :: rest)
    | .token t =>
      match t.kind with
      | .mergeKey => return (.mergeKey, g :: rest)
      | .tag => scalarTag? fuel s t rest
      | .string | .typed | .quoted => return (.scalar t.value t.datum, g :: rest)
      | _ => failure
    | _ => failure

/-- The node of an anchor before its value. -/
def anchorBefore? : (fuel : Nat) → Site → (mark : Token) → (name : Group) → List Group → Reading (Node × List Group)
  | 0, _, _, _, _ => failure
  | _ + 1, _, _, _, [] => failure
  | fuel + 1, s, mark, name, g :: rest => do
    let name ← nameOf? name
    let (n, rest) ← node? fuel s g rest
    if n.isAnchor then failure else return (.anchor mark.place name n, rest)

/-- The node of a tag before a scalar. -/
def scalarTag? : (fuel : Nat) → Site → (tag : Token) → List Group → Reading (Node × List Group)
  | 0, _, _, _ => failure
  | fuel + 1, s, tag, rest => do
    match ← tag? fuel s tag rest with
    | (.tagged p t n, rest) => if n.isScalar then return (.tagged p t n, rest) else failure
    | found => return found

/-- The node of a tag before its value. -/
def tag? : (fuel : Nat) → Site → (tag : Token) → List Group → Reading (Node × List Group)
  | 0, _, _, _ => failure
  | fuel + 1, s, tag, rest => do
    if (← get).hasTags then
      match rest with
      | [] => failure
      | g :: _ => return (.scalar g.first.value (.text g.first.value), rest)
    else
      let (n, rest) ← tagValue? fuel s tag.value rest
      return (.tagged tag.place tag.value n, rest)

/-- The value of a tag. -/
def tagValue? : (fuel : Nat) → Site → (tag : Text) → List Group → Reading (Node × List Group)
  | 0, _, _, _ => failure
  | _ + 1, _, _, [] => return (.null, [])
  | fuel + 1, s, tag, g :: rest =>
    if isTagOf ["!!map", "!!set"] tag then
      if !g.isMapping then failure
      else if g.kind = .openBrace then flowMapping? fuel { s with inFlow := true } [] true rest
      else mapping? fuel s [] g rest
    else if isTagOf scalarTags tag then
      match g with
      | .block head content => do return (← blockNode? head content, g :: rest)
      | _ =>
        if g.kind = .comma ∨ g.kind = .colon then return (defaultOf tag, g :: rest)
        else do
          let (n, rest) ← scalar? fuel s g rest
          return (n, rest.drop 1)
    else if isTagOf ["!!seq", "!!omap"] tag then
      if g.kind = .openBracket then flowSequence? fuel { s with inFlow := true } [] true rest
      else sequence? fuel s g [] (g :: rest)
    else node? fuel s g rest

/-- The key of an entry. -/
def key? : (fuel : Nat) → Site → Group → Reading Node
  | 0, _, _ => failure
  | fuel + 1, s, g =>
    match g with
    | .key question name colon => do
      let rest := if question.isSome then [] else (colon.map Group.token).toList
      let (key, _) ← scalar? fuel s name rest
      noteKey s g.first key
    | _ => failure

/-- The entry of a key and a value on its line. -/
def pair? : (fuel : Nat) → Site → (key value : Group) → Reading (Node × Node)
  | 0, _, _, _ => failure
  | fuel + 1, s, key, value => do
    let key ← key? fuel s key
    return (key, (← node? fuel (s.below key) value []).1)

/-- The entries of a mapping from the key that a group is, after others, and the groups after them. -/
def mapping? : (fuel : Nat) → Site → (entries : List (Node × Node)) → Group → List Group → Reading (Node × List Group)
  | 0, _, _, _, _ => failure
  | fuel + 1, s, entries, g, rest => do
    let (entry, rest) ← match g with
      | .pair key value => do
        let entry ← pair? fuel s key value
        if endsPair s g rest then pure (entry, rest) else failure
      | _ => do
        let key ← key? fuel s g
        if rest.head?.any fun next => next.line = g.line && next.kind = .dash then failure
        let (value, rest) ← mappingValue? fuel (s.below key) g rest
        pure ((key, value), rest)
    let entries := entries ++ [entry]
    match rest with
    | [] => return (.mapping entries, rest)
    | next :: after =>
      if next.column ≠ g.column || (s.inFlow && next.kind = .closeBracket) then return (.mapping entries, rest)
      else if !next.isMapping then failure
      else if next.kind = .closeBrace then return (.mapping entries, after)
      else if next.isKey then mapping? fuel s entries next after
      else failure

/-- The value of a key, which may be missing, and the groups after it. -/
def mappingValue? : (fuel : Nat) → Site → (key : Group) → List Group → Reading (Node × List Group)
  | 0, _, _, _ => failure
  | _ + 1, _, _, [] => return (.null, [])
  | fuel + 1, s, key, g :: rest =>
    if g.column ≠ key.column ∧ g.line = key.line ∧ g.isKey then failure
    else if g.column = key.column ∧ g.isMapping then return (.null, g :: rest)
    else if g.line = key.line ∧ g.isAnchorName ∧
        rest.head?.any (fun next => next.column = key.column && next.isMapping) then
      emptyAnchor? g rest
    else valueRightOf? fuel s key.column g rest

/-- An anchor without a value. -/
def emptyAnchor? (g : Group) (rest : List Group) : Reading (Node × List Group) :=
  match g with
  | .anchorName mark name => do return (.anchor mark.place (← nameOf? name) .null, rest)
  | _ => failure

/-- The value of a key or of an item in a column. It is missing if the next group stands left of the column; anchors and tags
have to stand right of it. -/
def valueRightOf? : (fuel : Nat) → Site → (column : Nat) → Group → List Group → Reading (Node × List Group)
  | 0, _, _, _, _ => failure
  | fuel + 1, s, column, g, rest =>
    if g.column ≤ column ∧ (g.isAnchorName ∨ g.kind = .tag) then failure
    else if g.column < column then return (.null, g :: rest)
    else do
      let (n, rest) ← node? fuel s g rest
      if n.hasLateTag column then failure else return (n, rest)

/-- The items of a sequence after others, and the groups after them; `head` is the hyphen of the first one. -/
def sequence? : (fuel : Nat) → Site → (head : Group) → (items : List Node) → List Group → Reading (Node × List Group)
  | 0, _, _, _, _ => failure
  | _ + 1, _, _, items, [] => return (.sequence items, [])
  | fuel + 1, s, head, items, g :: rest =>
    if g.kind = .dash ∧ g.column = head.column then do
      let (n, rest) ← item? fuel (s.item items.length) head rest
      sequence? fuel s head (items ++ [n]) rest
    else return (.sequence items, g :: rest)

/-- The value of an item, which may be missing, and the groups after it. -/
def item? : (fuel : Nat) → Site → (head : Group) → List Group → Reading (Node × List Group)
  | 0, _, _, _ => failure
  | _ + 1, _, _, [] => return (.null, [])
  | fuel + 1, s, head, g :: rest =>
    if g.column = head.column ∧ g.kind = .dash then return (.null, g :: rest)
    else if g.line = head.line ∧ g.isAnchorName ∧
        rest.head?.any (fun next => next.column = head.column && next.kind = .dash) then
      emptyAnchor? g rest
    else valueRightOf? fuel s head.column g rest

/-- The items between brackets after others, and the groups after the closing bracket. -/
def flowSequence? : (fuel : Nat) → Site → (items : List Node) → (isFirst : Bool) → List Group →
    Reading (Node × List Group)
  | 0, _, _, _, _ => failure
  | _ + 1, _, _, _, [] => failure
  | fuel + 1, s, items, isFirst, g :: rest =>
    if g.kind = .closeBracket then return (.sequence items, rest)
    else if isFirst = (g.kind = .comma) then failure
    else match if isFirst then g :: rest else rest with
      | [] => failure
      | g :: rest =>
        if g.kind = .closeBracket then return (.sequence items, rest)
        else do
          let (n, rest) ← node? fuel (s.item items.length) g rest
          flowSequence? fuel s (items ++ [n]) false rest

/-- The entries between braces after others, and the groups after the closing brace. A value may be missing, also together
with its colon. -/
def flowMapping? : (fuel : Nat) → Site → (entries : List (Node × Node)) → (isFirst : Bool) → List Group →
    Reading (Node × List Group)
  | 0, _, _, _, _ => failure
  | _ + 1, _, _, _, [] => failure
  | fuel + 1, s, entries, isFirst, g :: rest =>
    if g.kind = .closeBrace then return (.mapping entries, rest)
    else if g.kind ≠ .comma ∧ !isFirst then failure
    else match if g.kind = .comma then rest else g :: rest with
      | [] => failure
      | g :: rest =>
        if g.kind = .closeBrace then return (.mapping entries, rest)
        else do
          let (entry, rest) ← match g with
            | .pair key value => do pure (← pair? fuel s key value, rest)
            | .key _ _ _ => do
              let key ← key? fuel s g
              if endsEntry rest then pure ((key, .null), rest)
              else match rest with
                | [] => failure
                | g :: rest => do
                  let (value, rest) ← node? fuel (s.below key) g rest
                  pure ((key, value), rest)
            | _ => do
              if !endsEntry rest then failure
              let (key, rest) ← scalar? fuel s g rest
              pure ((key, .null), rest.drop 1)
          flowMapping? fuel s (entries ++ [entry]) false rest

end

namespace Node

/-- The node of a document, if it has one. -/
def ofDocument? (fuel : Nat) (d : Document) : Reading (Option Node) := do
  modify fun notes => { notes with keys := [] }
  match d.groups with
  | [] => return none
  | g :: rest =>
    match ← node? fuel {} g rest with
    | (n, []) =>
      if d.isEnded then modify fun notes => { notes with hasVersion := false }
      return some n
    | _ => failure

/-- The nodes of the documents of a text. -/
def ofText? (t : Text) : Option (List Node) := do
  let ts ← tokens? t
  let found ← ((← Document.ofTokens? ts).mapM (ofDocument? (8 * ts.length + 8))).run' {}
  return found.filterMap id

end Node

end Literate.Yaml
