import BuilderSynthesis.Files.Saving
import BuilderSynthesis.Report.Inspection

/-!
Contract: the report on generated sources, saved or only shown.
-/

namespace BuilderSynthesis.Report

/-- What became of generated sources. -/
inductive Delivery where
  /-- They were saved in a directory. -/
  | saved (directory : String) (savings : Files.Savings)
  /-- They are only shown. -/
  | shown (files : List Files.TextFile)
deriving DecidableEq, Repr

/-- What generating sources came to. -/
structure Generation where
  classCount : Nat
  /-- The number of builders that were generated. -/
  builderCount : Nat
  /-- The name of the strategy of the builders. -/
  policy : String
  warnings : List String
  /-- The classes as a tree. -/
  tree : String
  delivery : Delivery
deriving DecidableEq, Repr

namespace Generation

def savingsLines (savings : Files.Savings) : List Line :=
  (if savings.written.isEmpty then
    []
  else
    [.blank, .heading "Written"] ++ savings.written.map Line.addition) ++
    (if savings.unchanged.isEmpty then
      []
    else
      [.blank, .block (toString savings.unchanged.length ++ " files unchanged")])

def shownLines (files : List Files.TextFile) : List Line :=
  files.flatMap (fun file => [.divider file.path, .block file.content]) ++
    [.divider "Summary", .block (toString files.length ++ " files would be generated")] ++
    files.map (fun file => .bullet file.path)

def lines (generation : Generation) : List Line :=
  generation.warnings.map (fun message => .alert ("warning: " ++ message)) ++
    match generation.delivery with
    | .saved directory savings =>
        [classHeading generation.classCount, .block generation.tree, .blank,
          .setting "Policy" generation.policy,
          .setting "Builders" (toString generation.builderCount),
          .setting "Generated" directory] ++ savingsLines savings
    | .shown files => shownLines files

end Generation

end BuilderSynthesis.Report
