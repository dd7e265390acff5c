import BuilderSynthesis.Files.Path
import BuilderSynthesis.Keyed

/-!
Contract: what commands ask of a file system, and a disk as a value that answers them.

Commands are written against a record of operations, so that one definition runs on the disk of a
machine and on a disk that is a value. Whatever prevents an operation, the answer is only that it
did not succeed.

A disk is a tree of directories with files that hold text. Relative paths start at
its root. A path leads somewhere only if every name on the way but the last is that
of a directory; a name that is taken by a file stops the making of directories and
one that is taken by a directory stops the writing of a file.

A directory is made at the end of a path that leads there. Only where a directory on
the way is missing, those that the path says it is in are made first, so a path that
ends with a dot can name a directory but not make one.
-/

namespace BuilderSynthesis.Files

/-- The operations on files, in the monad that they take place in. -/
structure Access (m : Type → Type) where
  /-- The text of a file, if there is a file and it is text. -/
  read : String → m (Option String)
  /-- Whether there is a file or a directory. -/
  isPresent : String → m Bool
  /-- Makes a directory and those it is in. Tells whether they are there. -/
  makeDirectory : String → m Bool
  /-- Gives a file its text. The directory it is in must be there. Tells whether it was done. -/
  write : String → String → m Bool

/-- The names on the way from the root. -/
abbrev Place := List String

/-- Files and directories. The root is a directory on every disk. -/
structure Disk where
  files : List (Place × String) := []
  directories : List Place := []
deriving Repr, Inhabited

namespace Disk

def textAt? (disk : Disk) (place : Place) : Option String :=
  Keyed.value? disk.files place

def isDirectory (disk : Disk) (place : Place) : Bool :=
  place.isEmpty || disk.directories.contains place

def isTaken (disk : Disk) (place : Place) : Bool :=
  disk.isDirectory place || (disk.textAt? place).isSome

def next (place : Place) (name : String) : Place :=
  if isIdle name then place else if name = ".." then place.dropLast else place ++ [name]

inductive Obstacle where
  /-- A directory on the way is not there. -/
  | missing
  /-- A name on the way is that of a file or too long, or there is no way at all. -/
  | blocked
deriving DecidableEq, Repr

def follow (disk : Disk) : Place → List String → Except Obstacle Place
  | place, [] => .ok place
  | place, name :: rest =>
      if disk.isDirectory place then
        if isShortName name then disk.follow (next place name) rest else .error .blocked
      else if (disk.textAt? place).isSome then
        .error .blocked
      else
        .error .missing

def locate (disk : Disk) (path : String) : Except Obstacle Place :=
  if isAdmissible path then disk.follow [] (names path) else .error .blocked

def read? (disk : Disk) (path : String) : Option String :=
  (disk.locate path).toOption.bind disk.textAt?

def isPresent (disk : Disk) (path : String) : Bool :=
  ((disk.locate path).map disk.isTaken).toOption.getD false

/-- A disk with a directory at the end of a path. Only the last name may be new. -/
def withDirectory (disk : Disk) (path : String) : Except Obstacle Disk := do
  let place ← disk.locate (withoutTrailingSlashes path)
  if disk.isDirectory place then
    return disk
  else if (disk.textAt? place).isSome then
    throw .blocked
  else
    return { disk with directories := disk.directories ++ [place] }

/-- Makes the first of some directories, and those after it as far as they are missing. -/
def makeDirectories (disk : Disk) : List String → Bool × Disk
  | [] => (true, disk)
  | path :: outer =>
      match disk.withDirectory path with
      | .ok disk => (true, disk)
      | .error .blocked => (false, disk)
      | .error .missing =>
          match disk.makeDirectories outer with
          | (false, disk) => (false, disk)
          | (true, disk) =>
              match disk.withDirectory path with
              | .ok disk => (true, disk)
              | .error _ => (false, disk)

/-- Makes a directory and those it is in. Where a relative path starts there is one. -/
def makeDirectory (disk : Disk) (path : String) : Bool × Disk :=
  if path.isEmpty then (true, disk) else disk.makeDirectories (path :: enclosing path)

def setText (disk : Disk) (place : Place) (content : String) : Disk :=
  { disk with files := Keyed.put disk.files place content }

/-- The file that was given a text has it, and the other files keep theirs. -/
theorem textAt?_setText (disk : Disk) (place : Place) (content : String) (other : Place) :
    (disk.setText place content).textAt? other =
      if other = place then some content else disk.textAt? other :=
  Keyed.value?_put disk.files place content other

/-- Gives a file its text, if a file can be there. -/
def write (disk : Disk) (path content : String) : Bool × Disk :=
  match disk.locate path with
  | .error _ => (false, disk)
  | .ok place =>
      if disk.isDirectory place then (false, disk) else (true, disk.setText place content)

def access : Access (StateM Disk) where
  read path := do return (← get).read? path
  isPresent path := do return (← get).isPresent path
  makeDirectory path := fun disk => pure (disk.makeDirectory path)
  write path content := fun disk => pure (disk.write path content)

/-- The paths of all files, in the order of their texts. -/
def paths (disk : Disk) : List String :=
  (disk.files.map (fun file => ofNames file.1)).mergeSort (fun left right => !(right < left))

end Disk

end BuilderSynthesis.Files
