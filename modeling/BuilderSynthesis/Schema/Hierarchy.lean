import BuilderSynthesis.Schema.DataClass

/-!
Contract: the classes of one run and how they extend each other.

A class is known by its position. Links to superclasses are positions too, and
nothing here assumes that they are in range or free of cycles: a walk along them
takes at most as many steps as there are classes.

Does not own: which hierarchies are well formed.
-/

namespace BuilderSynthesis.Schema

/-- Classes in the order of their declaration. -/
structure Hierarchy where
  classes : List DataClass := []
deriving DecidableEq, Repr, Inhabited

namespace Hierarchy

def size (hierarchy : Hierarchy) : Nat :=
  hierarchy.classes.length

def get? (hierarchy : Hierarchy) (id : ClassId) : Option DataClass :=
  hierarchy.classes[id]?

/-- A hierarchy with one more class, at the position that was the size. -/
def push (hierarchy : Hierarchy) (dataClass : DataClass) : Hierarchy :=
  ⟨hierarchy.classes ++ [dataClass]⟩

def entries (hierarchy : Hierarchy) : List (ClassId × DataClass) :=
  hierarchy.classes.zipIdx.map Prod.swap

/-- The last class declared under a name. -/
def lookup (hierarchy : Hierarchy) (name : String) : Option ClassId :=
  (hierarchy.entries.reverse.find? (fun entry => entry.2.name == name)).map Prod.fst

def superclass (hierarchy : Hierarchy) (id : ClassId) : Option ClassId :=
  (hierarchy.get? id).bind DataClass.superclass

/-- A hierarchy in which one class has another superclass; without effect for a
position that holds no class. -/
def setSuperclass (hierarchy : Hierarchy) (id : ClassId) (superclass : Option ClassId) :
    Hierarchy :=
  ⟨hierarchy.classes.modify id (fun dataClass => { dataClass with superclass := superclass })⟩

/-- The chain of superclasses that starts at a class, up to a number of steps. -/
def chain (hierarchy : Hierarchy) : Nat → Option ClassId → List ClassId
  | 0, _ => []
  | _ + 1, none => []
  | steps + 1, some id => id :: hierarchy.chain steps (hierarchy.superclass id)

theorem length_chain_le (hierarchy : Hierarchy) (steps : Nat) (start : Option ClassId) :
    (hierarchy.chain steps start).length ≤ steps := by
  induction steps generalizing start with
  | zero => simp [chain]
  | succ steps inductionHypothesis =>
      cases start with
      | none => simp [chain]
      | some id => simpa [chain] using inductionHypothesis (hierarchy.superclass id)

/-- The proper ancestors of a class, nearest first; at most as many as there are
classes, so that a cycle ends as well. -/
def ancestors (hierarchy : Hierarchy) (id : ClassId) : List ClassId :=
  hierarchy.chain hierarchy.size (hierarchy.superclass id)

/-- The direct subclasses of a class, in the order of their declaration. -/
def subclasses (hierarchy : Hierarchy) (id : ClassId) : List ClassId :=
  (hierarchy.entries.filter (fun entry => entry.2.superclass == some id)).map Prod.fst

def roots (hierarchy : Hierarchy) : List ClassId :=
  (hierarchy.entries.filter (fun entry => entry.2.superclass.isNone)).map Prod.fst

def ownProperties (hierarchy : Hierarchy) (id : ClassId) : List (ClassId × Field) :=
  match hierarchy.get? id with
  | none => []
  | some dataClass => dataClass.instanceFields.map (fun field => (id, field))

/-- The properties visible on a class: those of its ancestors, the farthest first,
and then its own. -/
def visibleProperties (hierarchy : Hierarchy) (id : ClassId) : List (ClassId × Field) :=
  ((hierarchy.ancestors id).reverse ++ [id]).flatMap hierarchy.ownProperties

end Hierarchy

end BuilderSynthesis.Schema
