import BuilderSynthesis.Keyed
import BuilderSynthesis.Toml.Value

/-!
Contract: how the tables of a document grow.

`descend` walks along a path of keys and makes the tables that are missing. A
table may be opened by one header only, and only if nothing but headers of inner
tables mentioned it before; a table in braces is complete; keys with dots extend
only tables that keys with dots made. A second definition of anything is refused.
-/

namespace BuilderSynthesis.Toml

/-- Entries in which the table at the end of a path is changed. Missing tables are made
with the given origin, which is that of headers or that of keys with dots. -/
def descend (made : Origin) (change : Origin → Entries → Option Entries) :
    List String → Origin → Entries → Option Entries
  | [], origin, entries => change origin entries
  | key :: path, _, entries =>
      match Keyed.value? entries key with
      | none => do
          let inner ← descend made change path made []
          return Keyed.put entries key (.table made inner)
      | some (.table origin inner) =>
          if origin = .inline ∨ (made = .dotted ∧ origin = .header) then
            none
          else do
            let inner ← descend made change path origin inner
            return Keyed.put entries key (.table origin inner)
      | some (.tableArray tables) =>
          match tables.getLast? with
          | none => none
          | some last => do
              let inner ← descend made change path .header last
              return Keyed.put entries key (.tableArray (tables.dropLast ++ [inner]))
      | some _ => none

/-- Entries with one more key, below the tables of a dotted path. -/
def insertKey (path : List String) (key : String) (value : Value) (origin : Origin)
    (entries : Entries) : Option Entries :=
  descend .dotted
    (fun reached inner =>
      if (reached = .dotted) = (path = []) ∨ (Keyed.value? inner key).isSome then
        none
      else
        some (Keyed.put inner key value))
    path origin entries

def openTable (key : String) (entries : Entries) : Option Entries :=
  match Keyed.value? entries key with
  | none => some (Keyed.put entries key (.table .header []))
  | some (.table .implied inner) => some (Keyed.put entries key (.table .header inner))
  | some _ => none

/-- Entries in which a header in double brackets adds a table to an array. -/
def appendTable (key : String) (entries : Entries) : Option Entries :=
  match Keyed.value? entries key with
  | none => some (Keyed.put entries key (.tableArray [[]]))
  | some (.tableArray tables) => some (Keyed.put entries key (.tableArray (tables ++ [[]])))
  | some _ => none

end BuilderSynthesis.Toml
