import BuilderSynthesis.Text.Segment

/-!
Contract: paths as text, and what is handed over for saving at one.

A path is a sequence of names between slashes; one that starts with a slash is
absolute. An empty name and a single dot after the first name lead nowhere: they
neither count as the last name nor change what a path means. Systems bound the
bytes of a name and of a path, and a path holds no NUL.

Does not own: what a path leads to, which is for a disk to say.
-/

namespace BuilderSynthesis.Files

/-- A file. Its path is looked up from a directory that the file does not know. -/
structure TextFile where
  path : String
  content : String
deriving DecidableEq, Repr

def names (path : String) : List String :=
  (Text.split '/' path.toList).map String.ofList

def isAbsolute (path : String) : Bool :=
  path.toList.head? == some '/'

def inDirectory (directory path : String) : String :=
  if isAbsolute path || directory.isEmpty then
    path
  else if directory.toList.getLast? == some '/' then
    directory ++ path
  else
    directory ++ "/" ++ path

/-- Whether a name leads nowhere. -/
def isIdle (name : String) : Bool :=
  name.isEmpty || name == "."

/-- Names without the idle ones at the end. The first name stays. -/
def withoutIdleEnd : List String → List String
  | [] => []
  | first :: rest => first :: (rest.reverse.dropWhile isIdle).reverse

def ofNames : List String → String
  | [""] => "/"
  | names => Text.joinWith "/" names

/-- The directory that a path says something is in, if the path has a last name. -/
def parent? (path : String) : Option String :=
  match withoutIdleEnd (names path) with
  | [""] => none
  | names => some (ofNames (withoutIdleEnd names.dropLast))

/-- The directories that a path says it is in, innermost first, at most the given number. -/
def outward : Nat → String → List String
  | 0, _ => []
  | count + 1, path =>
      match parent? path with
      | none => []
      | some outer => if outer.isEmpty then [] else outer :: outward count outer

/-- The directories that a path says it is in, innermost first. Where a relative path starts
is none of them. -/
def enclosing (path : String) : List String :=
  outward (names path).length path

/-- A path without the slashes it ends with; a single slash stays. -/
def withoutTrailingSlashes (path : String) : String :=
  match (names path).reverse.dropWhile String.isEmpty with
  | [] => path
  | last => ofNames last.reverse

def isShortName (name : String) : Bool :=
  name.utf8ByteSize ≤ 255

/-- Whether a system would look at a path at all. -/
def isAdmissible (path : String) : Bool :=
  0 < path.utf8ByteSize && path.utf8ByteSize < 4096 && !path.toList.contains '\x00'

/-- Whether a relative path stays where it starts. -/
def isHere (path : String) : Bool :=
  match names path with
  | "." :: rest => rest.all isIdle
  | _ => false

end BuilderSynthesis.Files
