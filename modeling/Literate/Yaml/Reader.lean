import Literate.Decimal.Reader
import Literate.Log.Moment
import Literate.Text.Base64
import Literate.Text.Case
import Literate.Yaml.Node

/-!
# Reading YAML

`Yaml.read?` reads the mapping that is the first document of a text with content; the nodes of all documents have to be
sound. An alias stands for the value of an anchor before it, in whatever document, a merged mapping gives its entries to the
mapping that it stands in, and a tag makes its value one of a kind.
-/

namespace Literate.Yaml

open Text

/-! ## Tags -/

/-- The integer of decimal digits, as near to it as 64 bits allow; zero for any other text. -/
def nearestInt (t : Text) : Int :=
  let negative := startsWith t "-"
  match digits? 10 (if negative ∨ startsWith t "+" then t.drop 1 else t) with
  | none => 0
  | some n =>
    if negative then if Word.half < n then -(Word.half : Int) else -(n : Int)
    else if n < Word.half then n
    else (Word.half : Int) - 1

/-- The samples of how a moment is written. -/
def momentLayouts : List Text :=
  ["2006-1-2T15:4:5.999999999Z07:00", "2006-1-2t15:4:5.999999999Z07:00", "2006-1-2 15:4:5.999999999", "2006-1-2"]

/-- The moment that a text stands for; the start of the year one if it stands for none. -/
def momentOf (t : Text) : Log.Instant :=
  (momentLayouts.findSome? fun l => (Log.Layout.parse l).read? .utc .host t).getD .zero

/-- Bytes as a list of numbers. -/
def byteList (t : Text) : Text := "[" ++ join " " (t.map fun b => ofNat b.toNat) ++ "]"

/-- The truth value that a text stands for. -/
def truthOf? (t : Text) : Option Bool :=
  (truth? t).or <| if t = ("yes" : Text) then some true else if t = ("no" : Text) then some false else none

/-- What a tag makes of a datum. -/
def tagDatum? (tag : Text) (d : Datum) : Option Datum :=
  if isTagOf ["!!null"] tag then some .null
  else if isTagOf ["!!str"] tag then
    match d with
    | .null => some (.text [])
    | d => some (.text d.line)
  else if isTagOf ["!!int"] tag then some (.int (nearestInt d.line))
  else if isTagOf ["!!float"] tag then
    match d with
    | .int n => some (.float (Float.ofInt n).toBits)
    | .float bits => some (.float bits)
    | .text t => some (.float ((Decimal.nearest? t).getD 0.0).toBits)
    | _ => some (.int 0)
  else if isTagOf ["!!bool"] tag then (truthOf? (Text.toLower d.line)).map .bool
  else if isTagOf ["!!binary"] tag then
    match d with
    | .text t => some (.text (byteList (base64Start t)))
    | _ => none
  else if isTagOf ["!!timestamp"] tag then
    match d with
    | .text t => some (.text ((momentOf t).format "2006-01-02 15:04:05.999999999 -0700 MST"))
    | _ => some (.text (Log.Instant.zero.format "2006-01-02 15:04:05.999999999 -0700 MST"))
  else some d

/-! ## Values -/

/-- What the anchors that have been read stand for. -/
structure Anchors where
  nodes : List (Text × Node) := []
  values : List (Text × Datum) := []

/-- Evaluation that looks up anchors and adds to them. -/
abbrev Evaluation := StateT Anchors Option

/-- Whether the value of a key is merged into the mapping. -/
def Node.isMerge : Node → Bool
  | mergeKey => true
  | tagged _ _ n => n.isMerge
  | _ => false

/-- The entries of the mapping that a node is; `inList` allows for a list of mappings. A mapping that is being read has no
entries yet. -/
def mappingOf? (names : List Text) : (fuel : Nat) → (inList : Bool) → Node → Evaluation (List (Node × Node))
  | 0, _, _ => failure
  | fuel + 1, inList, n =>
    match n with
    | .mapping entries => return entries
    | .tagged _ _ n => mappingOf? names fuel inList n
    | .anchor _ name n => do
      modify fun a => { a with nodes := (name, n) :: a.nodes }
      mappingOf? names fuel inList n
    | .reference name => do
      match (← get).nodes.lookup name with
      | some n => if names.contains name then failure else mappingOf? names fuel inList n
      | none => failure
    | .sequence items => do
      if inList then return (← items.mapM (mappingOf? names fuel false)).flatten else failure
    | _ => failure

/-- The entries with one more, in place of an earlier one with the same key. -/
def putEntry (key : Text) (d : Datum) (entries : List (Text × Datum)) : List (Text × Datum) :=
  entries.filter (·.1 ≠ key) ++ [(key, d)]

/-- A datum as a key. -/
def keyText (d : Datum) : Text :=
  match d with
  | .null => "null"
  | d => d.line

/-- The key of an entry of a whole document. Nothing is the empty key, and bytes are the text that they make. -/
def rootKey? (n : Node) (d : Datum) : Option Text :=
  match n, d with
  | _, .null => some []
  | _, .list _ => none
  | _, .mapping _ => none
  | .tagged _ tag (.scalar _ (.text t)), d =>
    if isTagOf ["!!binary"] tag then some (base64Start t)
    else if isTagOf ["!!timestamp"] tag then none
    else some d.line
  | _, d => some d.line

mutual

/-- The datum that a node stands for; `names` are those of the anchors around it, which stand for nothing. -/
def datum? : (fuel : Nat) → (names : List Text) → Node → Evaluation Datum
  | 0, _, _ => failure
  | fuel + 1, names, n =>
    match n with
    | .scalar _ d => return d
    | .reference name => do
      if names.contains name then return .null
      else (← get).values.lookup name
    | .anchor _ name n => do
      let d ← datum? fuel (name :: names) n
      modify fun a => { nodes := (name, n) :: a.nodes, values := (name, d) :: a.values }
      return d
    | .tagged _ tag n => do tagDatum? tag (← datum? fuel names n)
    | .sequence items => do return .list (← data? fuel names items)
    | .mapping entries => do return .mapping (← entries? fuel false names [] [] entries)
    | _ => return .null

/-- The data that nodes stand for. -/
def data? : (fuel : Nat) → (names : List Text) → List Node → Evaluation (List Datum)
  | 0, _, _ => failure
  | _ + 1, _, [] => return []
  | fuel + 1, names, n :: rest => do
    let d ← datum? fuel names n
    return d :: (← data? fuel names rest)

/-- The entries of a mapping after others. In a whole document, which is the root, no key of `known` stands again. -/
def entries? : (fuel : Nat) → (isRoot : Bool) → (names known : List Text) → (done : List (Text × Datum)) →
    List (Node × Node) → Evaluation (List (Text × Datum))
  | 0, _, _, _, _, _ => failure
  | _ + 1, _, _, _, done, [] => return done
  | fuel + 1, isRoot, names, known, done, (k, n) :: rest => do
    if k.isMerge then
      let found ← mappingOf? names fuel true n
      let merged ← entries? fuel isRoot names [] [] found
      entries? fuel isRoot names known (merged.foldl (fun done (k, d) => putEntry k d done) done) rest
    else
      let key ← datum? fuel names k
      let key ← if isRoot then rootKey? k key else some (keyText key)
      if isRoot && known.contains key then failure
      let d ← datum? fuel names n
      entries? fuel isRoot names (key :: known) (putEntry key d done) rest

end

/-! ## Documents -/

/-- How deep evaluation goes. -/
def depth : Nat := 100000

/-- Whether a document has content: a value, or a word for nothing. -/
def hasContent (n : Node) (d : Datum) : Bool :=
  match n, d with
  | .scalar _ .null, _ => true
  | _, .null => false
  | _, _ => true

/-- The entries of the first node with content, where all of them have values; none if no node has content. -/
def root? (ns : List Node) : Evaluation (List (Text × Datum)) := do
  let found ← ns.filterM fun n => do return hasContent n (← datum? depth [] n)
  match found with
  | [] => return []
  | n :: _ => entries? depth true [] [] [] (← mappingOf? [] depth false n)

/-- The entries of the mapping that a text holds; none if it has no document with content. -/
def read? (t : Text) : Option (List (Text × Datum)) := (Node.ofText? t).bind fun ns => (root? ns).run' {}

end Literate.Yaml
