import BuilderSynthesis.Files.Disk

/-!
Contract: saving generated files.

A file that holds its text already is left alone, so that what watches the
directory sees real changes only. Saving stops at the first file that cannot be
written; files before it stay as they were saved.
-/

namespace BuilderSynthesis.Files

inductive Saved where
  | written
  /-- The file held its text already. -/
  | unchanged
deriving DecidableEq, Repr

/-- What saving several files came to: their paths, in order. -/
structure Savings where
  written : List String := []
  unchanged : List String := []
deriving DecidableEq, Repr

def Savings.total (savings : Savings) : Nat :=
  savings.written.length + savings.unchanged.length

def Savings.cons (path : String) (saved : Saved) (savings : Savings) : Savings :=
  match saved with
  | .written => { savings with written := path :: savings.written }
  | .unchanged => { savings with unchanged := path :: savings.unchanged }

/-- Writes a file in a directory that may have to be made first. -/
def writeWithParents [Monad m] (access : Access m) (path content : String) : m Bool := do
  match parent? path with
  | none => access.write path content
  | some directory =>
      if ← access.makeDirectory directory then access.write path content else return false

/-- Saves a file in a directory, unless that is not possible. -/
def save [Monad m] (access : Access m) (directory : String) (file : TextFile) :
    m (Option Saved) := do
  let path := inDirectory directory file.path
  if (← access.read path) = some file.content then
    return some .unchanged
  else if ← writeWithParents access path file.content then
    return some .written
  else
    return none

/-- Saves files in a directory, or gives the path of the first that cannot be saved. -/
def saveAll [Monad m] (access : Access m) (directory : String) :
    List TextFile → m (Except String Savings)
  | [] => return .ok {}
  | file :: rest => do
      match ← save access directory file with
      | none => return .error (inDirectory directory file.path)
      | some saved =>
          match ← saveAll access directory rest with
          | .error path => return .error path
          | .ok savings => return .ok (savings.cons file.path saved)

/-- What a user is told about a file that cannot be saved. -/
def unsavedMessage (path : String) : String :=
  "failed to write " ++ path

end BuilderSynthesis.Files
