import BuilderSynthesis.Command.Failure
import BuilderSynthesis.Manifest.Reading

/-!
Contract: the manifest that a new project starts from, and the command that writes it.

It declares an abstract class with one property and a class that extends it. The
package stands between the quotes as it was given.

Nothing that is there is overwritten. The starter is read back before its author
sees it; a package that makes it unreadable is reported, and the file stays.
-/

namespace BuilderSynthesis.Manifest

def starterBody : String :=
  "policy = \"mutable\"\n\n" ++
  "[[class]]\nname = \"Entity\"\nabstract = true\ndoc = \"Base of all persistent types\"\n\n" ++
  "[[class.field]]\nname = \"id\"\ntype = \"long\"\n\n" ++
  "[[class]]\nname = \"Customer\"\nextends = \"Entity\"\n\n" ++
  "[[class.field]]\nname = \"name\"\ntype = \"string\"\n\n" ++
  "[[class.field]]\nname = \"emails\"\ntype = \"string[]\"\n"

def starter (package : String) : String :=
  "[generator]\npackage = \"" ++ package ++ "\"\n" ++ starterBody

end BuilderSynthesis.Manifest

namespace BuilderSynthesis.Command

/-- Writes a starter for a package in a directory and gives the path of its file. -/
def create [Monad m] (access : Files.Access m) (package directory : String)
    (toml : Toml.Reader := Toml.read?) : m (Except Failure String) := do
  let path := Files.inDirectory directory Manifest.fileName
  if ← access.isPresent path then
    return .error (.occupied path)
  else if !(← access.makeDirectory directory) then
    return .error (.noDirectory directory)
  else if !(← access.write path (Manifest.starter package)) then
    return .error (.unwritten path)
  else
    match ← Manifest.openFile access path toml with
    | .error problem => return .error (.refused problem)
    | .ok _ => return .ok path

end BuilderSynthesis.Command
