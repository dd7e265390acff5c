import BuilderSynthesis.Files.Disk
import BuilderSynthesis.Manifest.Decoding
import BuilderSynthesis.Manifest.Validation

/-!
Contract: from the text of a manifest, or the file that it is in, to an accepted manifest.

An accepted manifest knows where the name of each class stands.
-/

namespace BuilderSynthesis.Manifest

def ClassEntry.located (file source : String) (entry : ClassEntry) : ClassEntry :=
  { entry with location := some (.ofOffset file source entry.name.span.start) }

def read (file source : String) (toml : Toml.Reader := Toml.read?) : Except Problem Manifest := do
  let manifest ← (decode source toml).mapError Problem.undecodable
  manifest.validate
  return { manifest with classes := manifest.classes.map (ClassEntry.located file source) }

/-- The file name that a manifest has unless a user says otherwise. -/
def fileName : String := "fluent.toml"

structure File where
  path : String
  content : String
  manifest : Manifest
deriving Repr

def openFile [Monad m] (access : Files.Access m) (path : String)
    (toml : Toml.Reader := Toml.read?) : m (Except Problem File) := do
  match ← access.read path with
  | none => return .error (.unreadable path)
  | some content =>
      match read path content toml with
      | .error problem => return .error problem
      | .ok manifest => return .ok ⟨path, content, manifest⟩

end BuilderSynthesis.Manifest
