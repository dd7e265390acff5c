import BuilderSynthesis.Report.Line

/-!
Contract: the reports on a manifest that was looked at, its classes or what is wrong with it.
-/

namespace BuilderSynthesis.Report

structure Listing where
  classCount : Nat
  /-- The classes as a tree. -/
  tree : String
  /-- The classes as JSON, if that was asked for. -/
  json : Option String
deriving DecidableEq, Repr

def classHeading (count : Nat) : Line :=
  .heading ("Classes (" ++ toString count ++ ")")

/-- The lines of the report; JSON stands alone. -/
def Listing.lines (listing : Listing) : List Line :=
  match listing.json with
  | some json => [.block json]
  | none =>
      if listing.classCount = 0 then
        [.block "No classes defined"]
      else
        [classHeading listing.classCount, .block listing.tree]

structure Check where
  /-- The file of the manifest. -/
  path : String
  errors : List String
  warnings : List String
  infos : List String
  classCount : Nat
  /-- The number of classes that get a builder. -/
  builderCount : Nat
  /-- The classes as a tree. -/
  tree : String
deriving DecidableEq, Repr

/-- A number of things: `1 class`, `2 classes`. -/
def counted (count : Nat) (singular ending : String) : String :=
  toString count ++ " " ++ singular ++ (if count = 1 then "" else ending)

namespace Check

/-- Whether nothing is wrong with the manifest. -/
def isValid (check : Check) : Bool :=
  check.errors.isEmpty

def summary (check : Check) : List Line :=
  [.block ("✓ " ++ check.path ++ " is valid"),
    .blank,
    .block ("  " ++ counted check.classCount "class" "es" ++ ", " ++
      counted check.builderCount "builder" "s" ++ ":")] ++
    (if check.tree.isEmpty then [] else [.block check.tree])

def lines (check : Check) : List Line :=
  check.errors.map (fun message => .alert ("error: " ++ message)) ++
    check.warnings.map (fun message => .alert ("warning: " ++ message)) ++
    check.infos.map (fun message => .block ("info: " ++ message)) ++
    (if check.warnings.isEmpty && check.errors.isEmpty then [] else [.blank]) ++
    (if check.isValid then check.summary else [])

end Check

end BuilderSynthesis.Report
