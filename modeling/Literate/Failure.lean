import Literate.Log.Value

/-!
# Failures

A failure is a chain of layers. The outermost layer says what went wrong; each further layer is the cause of the one
before it. A layer of this library descends from a *lineage*, which is what failures are matched by; a layer from
elsewhere, such as a message of the operating system, descends from none.

* `Failure.message` is the text of a failure: the messages of its layers, joined by colons.
* `Failure.attrs` is what is logged of a failure.
* `Failure.isA` matches failures: by identity, or by a common lineage.
-/

namespace Literate

open Log

/-- What can go wrong. -/
inductive Fault where
  | regionNested
  | regionOutside
  | duplicateInclude
  | unreadableInclude
  | unreadableInput
  | referenceCycle
  | maxDepthExceeded
  | undefinedReference
  | unexpanded
  | invalidMarker
  | invalidRegionTag
  | alreadyExpanded
  | writeFailed
  | jsonNotWritten
  | yamlNotWritten
  | configNotWritten
  | fileExists
  | invalidPair
  | invalidFilter
deriving DecidableEq, Repr

/-- The wording of a fault. -/
def Fault.message : Fault → Text
  | .regionNested => "already in region"
  | .regionOutside => "already outside region"
  | .duplicateInclude => "file already included"
  | .unreadableInclude => "cannot include file"
  | .unreadableInput => "failed to read input"
  | .referenceCycle => "reference cycle"
  | .maxDepthExceeded => "maximum expansion depth exceeded"
  | .undefinedReference => "undefined reference"
  | .unexpanded => "references not expanded"
  | .invalidMarker => "invalid directive marker"
  | .invalidRegionTag => "invalid region tag"
  | .alreadyExpanded => "web already expanded"
  | .writeFailed => "write failed"
  | .jsonNotWritten => "marshal JSON"
  | .yamlNotWritten => "marshal YAML"
  | .configNotWritten => "write configuration file"
  | .fileExists => "file exists (use --force to overwrite)"
  | .invalidPair => "expected NAME=VALUE"
  | .invalidFilter => "invalid filter expression"

/-- Every fault, in the order in which a failure is matched against them. -/
def Fault.all : List Fault :=
  [.regionNested, .regionOutside, .duplicateInclude, .unreadableInclude, .unreadableInput, .referenceCycle,
   .maxDepthExceeded, .undefinedReference, .unexpanded, .invalidMarker, .invalidRegionTag, .alreadyExpanded,
   .writeFailed, .jsonNotWritten, .yamlNotWritten, .configNotWritten, .fileExists, .invalidPair, .invalidFilter]

/-- What failures are matched by: a fault of this library, or a family that was founded with a number of its own. -/
inductive Lineage where
  | fault (f : Fault)
  | founded (serial : Nat)
deriving DecidableEq, Repr

/-- One link of a chain of causes. Layers that were made at different places have different serial numbers; the layers
that this library makes itself are never compared by identity, and all have the number zero. -/
inductive Layer where
  /-- A layer from elsewhere. -/
  | foreign (serial : Nat) (message : Text)
  /-- A layer of this library, with its lineage, if it has one. -/
  | own (serial : Nat) (lineage : Option Lineage) (message : Text) (attrs : List Attr)

namespace Layer

/-- The number that tells apart layers made at different places. -/
def serial : Layer → Nat
  | foreign n _ => n
  | own n _ _ _ => n

/-- The message of a layer without its causes. -/
def message : Layer → Text
  | foreign _ m => m
  | own _ _ m _ => m

/-- The lineage of a layer. -/
def lineage : Layer → Option Lineage
  | foreign _ _ => none
  | own _ l _ _ => l

/-- Whether a layer is one of this library. -/
def isOwn : Layer → Bool
  | foreign _ _ => false
  | own _ _ _ _ => true

end Layer

/-- A chain of layers, the outermost first. -/
structure Failure where
  head : Layer
  causes : List Layer

namespace Failure

/-! ## Reading a failure -/

/-- The text of a chain: non-empty messages of layers and the text of their cause, joined by colons. -/
def chainMessage : List Layer → Text
  | [] => []
  | .foreign _ m :: _ => m
  | .own _ _ m _ :: [] => m
  | .own _ _ m _ :: causes => if m = [] then chainMessage causes else m ++ ": " ++ chainMessage causes

/-- The layers of a failure, outermost first. -/
def layers (f : Failure) : List Layer := f.head :: f.causes

/-- The text of a failure. -/
def message (f : Failure) : Text := chainMessage f.layers

/-- The failure that this one was caused by. -/
def cause (f : Failure) : Option Failure :=
  match f.causes with
  | [] => none
  | c :: cs => some ⟨c, cs⟩

/-- The attributes attached to the outermost layer. -/
def attached (f : Failure) : List Attr :=
  match f.head with
  | .foreign _ _ => []
  | .own _ _ _ attrs => attrs

/-- The first attached attribute with a key. -/
def attr? (f : Failure) (key : Text) : Option Value := (f.attached.find? (·.1 = key)).map (·.2)

/-- What is logged of a failure: its message, its cause and its attributes. -/
def attrs (f : Failure) : List Attr :=
  (if f.head.message = [] then [] else [Attr.text "error" f.head.message]) ++
    (f.cause.toList.map fun c => Attr.text "cause" c.message) ++ f.attached

/-! ## Making failures -/

/-- A layer from elsewhere on its own. -/
def foreign (message : Text) : Failure := ⟨.foreign 0 message, []⟩

/-- The failure of a fault without cause and attributes. -/
def ofFault (f : Fault) : Failure := ⟨.own 0 (some (.fault f)) f.message [], []⟩

/-- The failure with another cause in place of its own. The number is that of the new layer. -/
def wrap (f : Failure) (cause : Option Failure) (serial : Nat := 0) : Failure :=
  { head := match f.head with
      | .own _ l m as => .own serial l m as
      | h => h
    causes := match cause with
      | none => []
      | some c => c.layers }

/-- The failure with more attributes. The number is that of the new layer. -/
def withAttrs (f : Failure) (attrs : List Attr) (serial : Nat := 0) : Failure :=
  { f with head := match f.head with
      | .own _ l m as => .own serial l m (as ++ attrs)
      | h => h }

/-- The outermost layer of this library in a chain, with its causes; a chain without one becomes the cause of a layer
that has neither message nor lineage. -/
def adopt (f : Failure) (serial : Nat := 0) : Failure :=
  match f.layers.dropWhile (!·.isOwn) with
  | l :: ls => ⟨l, ls⟩
  | [] => ⟨.own serial none [] [], f.layers⟩

/-! ## Matching failures -/

/-- Whether a layer matches a target: it is the target itself, or it has a lineage and the target has the same. -/
def layerMatches (l target : Layer) : Bool :=
  (l.serial == target.serial && l.isOwn == target.isOwn) || (l.lineage.isSome && l.lineage == target.lineage)

/-- Whether some layer of a failure matches the outermost layer of the target. -/
def isA (f target : Failure) : Bool := f.layers.any (layerMatches · target.head)

/-- Whether some layer of a failure descends from a fault. -/
def hasFault (f : Failure) (fault : Fault) : Bool := f.layers.any (·.lineage = some (.fault fault))

/-- The first fault that a failure descends from. -/
def fault? (f : Failure) : Option Fault := Fault.all.find? f.hasFault

end Failure

end Literate
