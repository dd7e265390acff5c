import BuilderSynthesis.Schema.Hierarchy
import BuilderSynthesis.Text.Blank

/-!
Contract: the classes of a hierarchy as an indented tree.

Each class is a line under that of its superclass, two spaces deeper; roots and
siblings stand in the order of their declaration. A class on a cycle hangs under
no root and has no line.
-/

namespace BuilderSynthesis.Schema

def Field.typeText (field : Field) : String :=
  match field.cardinality with
  | .single => field.element.text
  | .array => field.element.text ++ "[]"
  | .list => "list<" ++ field.element.text ++ ">"

/-- A field in a tree: `static limit: int`. -/
def Field.description (field : Field) : String :=
  (if field.isStatic then "static " else "") ++ field.name ++ ": " ++ field.typeText

/-- A class in a tree: its name, whether it is abstract, and its fields. -/
def DataClass.description (dataClass : DataClass) : String :=
  dataClass.name ++ (if dataClass.isAbstract then " (abstract)" else "") ++
    (if dataClass.fields.isEmpty then
      ""
    else
      " \x7b " ++ Text.joinWith ", " (dataClass.fields.map Field.description) ++ " \x7d")

def treeIndent (indent : String) (depth : Nat) : String :=
  indent ++ String.ofList (List.replicate (2 * depth) ' ')

/-- The lines of the tree under a class. No path down from a root is longer than the
number of classes, which bounds the levels. -/
def Hierarchy.treeLines (hierarchy : Hierarchy) (indent : String) :
    Nat → Nat → ClassId → List String
  | 0, _, _ => []
  | levels + 1, depth, id =>
      match hierarchy.get? id with
      | none => []
      | some dataClass =>
          (treeIndent indent depth ++ dataClass.description) ::
            (hierarchy.subclasses id).flatMap (hierarchy.treeLines indent levels (depth + 1))

/-- The tree of a hierarchy, without blanks at its end. -/
def Hierarchy.tree (hierarchy : Hierarchy) (indent : String) : String :=
  let lines := hierarchy.roots.flatMap (hierarchy.treeLines indent hierarchy.size 0)
  Text.trimEnd (String.join (lines.map (fun line => line ++ "\n")))

end BuilderSynthesis.Schema
