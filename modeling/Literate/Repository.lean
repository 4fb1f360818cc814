import Literate.Element

/-!
# The repository of chunks and streams

Each namespace lists its entities in the order in which they were first defined. Defining a name that is defined
already changes nothing, so no name occurs twice.
-/

namespace Literate

/-- What a name stands for: its elements, and whether they are expanded. -/
structure Entity where
  elements : Array Element := #[]
  resolved : Bool := false
deriving DecidableEq

/-- An entity without elements. -/
def Entity.empty : Entity := {}

/-- The entities of one namespace by name, in order of first definition. -/
abbrev Namespace := List (Text × Entity)

namespace Namespace

/-- The names of a namespace. -/
def names (ns : Namespace) : List Text := ns.map (·.1)

/-- The entity of a name. -/
def find? (ns : Namespace) (name : Text) : Option Entity := ns.lookup name

/-- Adds an empty entity for a name that has none. -/
def define (ns : Namespace) (name : Text) : Namespace :=
  if (find? ns name).isSome then ns else ns ++ [(name, Entity.empty)]

/-- Replaces the entity of a name by its image. -/
def update (ns : Namespace) (name : Text) (f : Entity → Entity) : Namespace :=
  ns.map fun e => if e.1 = name then (e.1, f e.2) else e

end Namespace

/-- The two namespaces with their entities. -/
abbrev Repository := PerKind Namespace

namespace Repository

/-- A repository without entities. -/
def empty : Repository := ⟨[], []⟩

instance : Inhabited Repository := ⟨empty⟩

/-- The names of a namespace, in order of first definition. -/
def names (r : Repository) (k : Kind) : List Text := Namespace.names (r.get k)

/-- The entity of a reference. -/
def find? (r : Repository) (ref : Ref) : Option Entity := Namespace.find? (r.get ref.kind) ref.name

/-- Whether a reference is defined. -/
def has (r : Repository) (ref : Ref) : Bool := (find? r ref).isSome

/-- Whether a reference is defined and expanded. -/
def isResolved (r : Repository) (ref : Ref) : Bool := ((find? r ref).map (·.resolved)).getD false

/-- Every defined reference: chunks, then streams. -/
def refs (r : Repository) : List Ref :=
  (names r .chunk).map (⟨.chunk, ·⟩) ++ (names r .stream).map (⟨.stream, ·⟩)

/-- Defines a reference if it is not defined. -/
def define (r : Repository) (ref : Ref) : Repository := r.modify ref.kind (Namespace.define · ref.name)

/-- Replaces the entity of a defined reference. -/
def update (r : Repository) (ref : Ref) (f : Entity → Entity) : Repository :=
  r.modify ref.kind (Namespace.update · ref.name f)

/-- Appends an element to the entity of a reference, which is defined first if need be. -/
def push (r : Repository) (ref : Ref) (e : Element) : Repository :=
  update (define r ref) ref fun entity => { entity with elements := entity.elements.push e }

/-- Appends an element to the entities of several names of one namespace. -/
def pushAll (r : Repository) (k : Kind) (names : List Text) (e : Element) : Repository :=
  names.foldl (fun r name => push r ⟨k, name⟩ e) r

end Repository

end Literate
