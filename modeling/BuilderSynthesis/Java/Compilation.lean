import BuilderSynthesis.Files.Disk

/-!
Contract: the files in a directory, and those of them that a compiler would be given.

Does not own: running the compiler.
-/

namespace BuilderSynthesis

namespace Files

/-- Whether a name ends with a dot and an extension, after something else. -/
def hasExtension (extension name : String) : Bool :=
  match Text.beforeLastDot? name with
  | none => false
  | some stem => !stem.isEmpty && Text.afterLastDot name == extension

/-- The paths of the files in a directory and the directories in it, unless it is none. -/
def Disk.pathsUnder? (disk : Disk) (directory : String) : Option (List String) :=
  match disk.locate directory with
  | .error _ => none
  | .ok place =>
      if disk.isDirectory place then
        some ((disk.files.filter (fun file => place.isPrefixOf file.1)).map (fun file =>
          inDirectory directory (ofNames (file.1.drop place.length))))
      else
        none

end Files

namespace Java

/-- Why there is nothing to compile. -/
inductive CompilationFault where
  /-- The directory cannot be listed. -/
  | unlisted
  | noSources
deriving DecidableEq, Repr

/-- What is known about a fault besides what the file system says. -/
def CompilationFault.message? : CompilationFault → Option String
  | .unlisted => none
  | .noSources => some "no .java files to compile"

def compilableFiles (disk : Files.Disk) (directory : String) :
    Except CompilationFault (List String) :=
  match disk.pathsUnder? directory with
  | none => .error .unlisted
  | some paths =>
      match paths.filter (fun path =>
          ((Files.names path).getLast?.map (Files.hasExtension "java")).getD false) with
      | [] => .error .noSources
      | sources => .ok sources

end Java

end BuilderSynthesis
