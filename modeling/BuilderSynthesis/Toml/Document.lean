import BuilderSynthesis.Toml.Expression

/-!
Contract: a document as the table that its expressions build.

A header says where the keys after it belong. `read?` gives nothing for a text
that is no document; why it is none is not told.
-/

namespace BuilderSynthesis.Toml

/-- A document in the making: the path that the last header opened, and the table. -/
structure Builder where
  opened : List String := []
  entries : Entries := []
deriving Repr

def Builder.add (builder : Builder) : Expression → Option Builder
  | .binding path key value => do
      let entries ←
        descend .implied (insertKey path key value) builder.opened .header builder.entries
      return { builder with entries := entries }
  | .header path key => do
      let entries ← descend .implied (fun _ => openTable key) path .header builder.entries
      return ⟨path ++ [key], entries⟩
  | .arrayHeader path key => do
      let entries ← descend .implied (fun _ => appendTable key) path .header builder.entries
      return ⟨path ++ [key], entries⟩

def assemble? (expressions : List Expression) : Option Entries :=
  (expressions.foldlM Builder.add {}).map Builder.entries

/-- A text without the byte-order mark it starts with. -/
def dropByteOrderMark : List Char → List Char
  | '\uFEFF' :: rest => rest
  | text => text

/-- The table of a document. A byte-order mark at the front counts in the offsets. -/
def read? (source : String) : Option Entries := do
  let text := source.toList
  let expressions ←
    readExpressions (Schema.byteLength text) (text.length + 1) (dropByteOrderMark text)
  assemble? expressions

end BuilderSynthesis.Toml
