import BuilderSynthesis.Manifest.Problem
import BuilderSynthesis.Toml.Document

/-!
Contract: a document as a manifest, if it has that shape.

The keys of a table are looked at in alphabetical order and the first problem
counts; a key that is missing is noticed after all that are there. A table can
also be written as an array of its values in the order of `Settings`,
`ClassEntry` and `FieldEntry`, where only values with a default may be left out at
the end and what is too much is not looked at.

Does not own: whether the names in the manifest make sense.
-/

namespace BuilderSynthesis.Manifest

abbrev Decoded := Except DecodeProblem

/-- Adds an entry in front of the first one with a key that is not smaller. -/
def insertSorted (entry : String × Toml.Value) : Toml.Entries → Toml.Entries
  | [] => [entry]
  | first :: rest =>
      if first.1 < entry.1 then first :: insertSorted entry rest else entry :: first :: rest

/-- Entries in the alphabetical order of their keys. -/
def sortedEntries (entries : Toml.Entries) : Toml.Entries :=
  entries.foldr insertSorted []

def unwanted : Toml.Value → DecodeProblem
  | .integer none => .malformed
  | .integer (some value) =>
      if -(Nat.pow 2 127 : Int) ≤ value ∧ value < Nat.pow 2 128 then .invalidType
      else .malformed
  | .float false => .malformed
  | _ => .invalidType

def dateKey : String := "$__toml_private_datetime"

def unwantedTable (expected : List String) : Toml.Value → DecodeProblem
  | .dateTime => .unknownField dateKey expected
  | value => unwanted value

def decodeText : Toml.Value → Decoded String
  | .string text _ => .ok text
  | value => .error (unwanted value)

def decodeMarked : Toml.Value → Decoded Marked
  | .string text span => .ok ⟨text, span⟩
  | value => .error (unwanted value)

def decodeFlag : Toml.Value → Decoded Bool
  | .boolean value => .ok value
  | value => .error (unwanted value)

def decodeItems : Toml.Value → Decoded (List Toml.Value)
  | .array items => .ok items
  | .tableArray tables => .ok (tables.map (Toml.Value.table .header))
  | value => .error (unwanted value)

def decodeTexts (value : Toml.Value) : Decoded (List String) := do
  (← decodeItems value).mapM decodeText

def decodePolicyName (name : String) : Decoded Schema.Policy :=
  match Schema.Policy.ofName? name with
  | some policy => .ok policy
  | none =>
      .error (.unknownVariant name [Schema.Policy.name .direct, Schema.Policy.name .defensive])

def isHollow : Toml.Value → Bool
  | .array [] => true
  | .table _ [] => true
  | _ => false

/-- A policy: its name, or a table whose only key is the name and holds nothing. -/
def decodePolicy : Toml.Value → Decoded Schema.Policy
  | .string text _ => decodePolicyName text
  | .table _ [(name, value)] => do
      let policy ← decodePolicyName name
      if isHollow value then .ok policy else .error .malformed
  | _ => .error .malformed

def required (name : String) : Option α → Decoded α
  | some value => .ok value
  | none => .error (.missingField name)

/-- The next value of an array that stands for a table; only a value with a default may be
missing. -/
def decodeNext (decode : Toml.Value → Decoded α) (default : Option α) :
    List Toml.Value → Decoded (α × List Toml.Value)
  | value :: rest => do return (← decode value, rest)
  | [] =>
      match default with
      | some value => .ok (value, [])
      | none => .error .malformed

def settingsKeys : List String :=
  ["package", "policy", "builder-name", "output"]

def Settings.addKey (settings : Settings) (entry : String × Toml.Value) : Decoded Settings :=
  match entry.1 with
  | "package" => do return { settings with package := some (← decodeText entry.2) }
  | "policy" => do return { settings with policy := ← decodePolicy entry.2 }
  | "builder-name" => do return { settings with builderName := ← decodeText entry.2 }
  | "output" => do return { settings with output := some (← decodeText entry.2) }
  | other => .error (.unknownField other settingsKeys)

def Settings.ofValues (values : List Toml.Value) : Decoded Settings := do
  let (package, values) ← decodeNext decodeText none values
  let (policy, values) ← decodeNext decodePolicy (some .direct) values
  let (builderName, values) ← decodeNext decodeText (some defaultBuilderName) values
  let (output, _) ← decodeNext decodeText none values
  return ⟨some package, policy, builderName, some output⟩

def decodeSettings : Toml.Value → Decoded Settings
  | .table _ entries => (sortedEntries entries).foldlM Settings.addKey {}
  | .array items => Settings.ofValues items
  | .tableArray tables => Settings.ofValues (tables.map (Toml.Value.table .header))
  | value => .error (unwantedTable settingsKeys value)

def fieldKeys : List String :=
  ["name", "type", "static", "doc"]

structure PartialField where
  name : Option Marked := none
  type : Option Marked := none
  isStatic : Bool := false
  doc : Option String := none

def PartialField.addKey (field : PartialField) (entry : String × Toml.Value) :
    Decoded PartialField :=
  match entry.1 with
  | "name" => do return { field with name := some (← decodeMarked entry.2) }
  | "type" => do return { field with type := some (← decodeMarked entry.2) }
  | "static" => do return { field with isStatic := ← decodeFlag entry.2 }
  | "doc" => do return { field with doc := some (← decodeText entry.2) }
  | other => .error (.unknownField other fieldKeys)

def PartialField.complete (field : PartialField) : Decoded FieldEntry := do
  let name ← required "name" field.name
  let type ← required "type" field.type
  return ⟨name, type, field.isStatic, field.doc⟩

def FieldEntry.ofValues (values : List Toml.Value) : Decoded FieldEntry := do
  let (name, values) ← decodeNext decodeMarked none values
  let (type, values) ← decodeNext decodeMarked none values
  let (isStatic, values) ← decodeNext decodeFlag (some false) values
  let (doc, _) ← decodeNext decodeText none values
  return ⟨name, type, isStatic, some doc⟩

def decodeField : Toml.Value → Decoded FieldEntry
  | .table _ entries => do
      ((← (sortedEntries entries).foldlM PartialField.addKey {}) : PartialField).complete
  | .array items => FieldEntry.ofValues items
  | .tableArray tables => FieldEntry.ofValues (tables.map (Toml.Value.table .header))
  | value => .error (unwantedTable fieldKeys value)

def decodeFields (value : Toml.Value) : Decoded (List FieldEntry) := do
  (← decodeItems value).mapM decodeField

def classKeys : List String :=
  ["name", "abstract", "doc", "extends", "nested", "field"]

structure PartialClass where
  name : Option Marked := none
  isAbstract : Bool := false
  doc : Option String := none
  superclass : Option Marked := none
  nested : List String := []
  fields : List FieldEntry := []

def PartialClass.addKey (entry : PartialClass) (key : String × Toml.Value) :
    Decoded PartialClass :=
  match key.1 with
  | "name" => do return { entry with name := some (← decodeMarked key.2) }
  | "abstract" => do return { entry with isAbstract := ← decodeFlag key.2 }
  | "doc" => do return { entry with doc := some (← decodeText key.2) }
  | "extends" => do return { entry with superclass := some (← decodeMarked key.2) }
  | "nested" => do return { entry with nested := ← decodeTexts key.2 }
  | "field" => do return { entry with fields := ← decodeFields key.2 }
  | other => .error (.unknownField other classKeys)

def PartialClass.complete (entry : PartialClass) : Decoded ClassEntry := do
  let name ← required "name" entry.name
  return ⟨name, entry.isAbstract, entry.doc, entry.superclass, entry.nested, entry.fields, none⟩

def ClassEntry.ofValues (values : List Toml.Value) : Decoded ClassEntry := do
  let (name, values) ← decodeNext decodeMarked none values
  let (isAbstract, values) ← decodeNext decodeFlag (some false) values
  let (doc, values) ← decodeNext decodeText none values
  let (superclass, values) ← decodeNext decodeMarked none values
  let (nested, values) ← decodeNext decodeTexts (some []) values
  let (fields, _) ← decodeNext decodeFields (some []) values
  return ⟨name, isAbstract, some doc, some superclass, nested, fields, none⟩

def decodeClass : Toml.Value → Decoded ClassEntry
  | .table _ entries => do
      ((← (sortedEntries entries).foldlM PartialClass.addKey {}) : PartialClass).complete
  | .array items => ClassEntry.ofValues items
  | .tableArray tables => ClassEntry.ofValues (tables.map (Toml.Value.table .header))
  | value => .error (unwantedTable classKeys value)

def decodeClasses (value : Toml.Value) : Decoded (List ClassEntry) := do
  (← decodeItems value).mapM decodeClass

def addKey (manifest : Manifest) (entry : String × Toml.Value) : Decoded Manifest :=
  match entry.1 with
  | "generator" => do return { manifest with settings := ← decodeSettings entry.2 }
  | "class" => do return { manifest with classes := ← decodeClasses entry.2 }
  | other => .error (.unknownField other ["generator", "class"])

def decode (source : String) (toml : Toml.Reader := Toml.read?) : Decoded Manifest :=
  match toml source with
  | none => .error .malformed
  | some entries => (sortedEntries entries).foldlM addKey {}

end BuilderSynthesis.Manifest
