import BuilderSynthesis.Files.Saving
import BuilderSynthesis.Manifest.Problem
import BuilderSynthesis.Run.Context

/-!
Contract: why a command does not do what it was asked to.
-/

namespace BuilderSynthesis.Command

inductive Failure where
  | refused (problem : Manifest.Problem)
  /-- A check ends before there is anything to report. -/
  | unchecked (failure : Run.Failure)
  /-- Classes cannot be listed. -/
  | unlisted (problem : Manifest.LoweringProblem)
  /-- Sources cannot be generated. -/
  | ungenerated (failure : Run.Failure)
  /-- A source file cannot be saved. -/
  | unsaved (path : String)
  /-- There is something where a new manifest would be. -/
  | occupied (path : String)
  /-- The directory of a new manifest cannot be made. -/
  | noDirectory (path : String)
  /-- A new manifest cannot be written. -/
  | unwritten (path : String)
deriving Repr

def Failure.chain : Failure → List String
  | .refused problem => [problem.message]
  | .unchecked failure => "Validation failed" :: failure.chain
  | .unlisted problem => [problem.message]
  | .ungenerated failure => "Pipeline failed" :: failure.chain
  | .unsaved path => ["Failed to write generated sources", Files.unsavedMessage path]
  | .occupied path => [path ++ " already exists"]
  | .noDirectory path => ["Failed to create " ++ path]
  | .unwritten path => ["Failed to write " ++ path]

def Failure.advice? : Failure → Option String
  | .refused problem => problem.help?
  | _ => none

end BuilderSynthesis.Command
