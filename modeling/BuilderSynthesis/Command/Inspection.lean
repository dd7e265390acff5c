import BuilderSynthesis.Command.Failure
import BuilderSynthesis.Report.Inspection
import BuilderSynthesis.Run.Pipeline
import BuilderSynthesis.Schema.Json
import BuilderSynthesis.Schema.Tree

/-!
Contract: the commands that look at a manifest and change nothing.

Checking goes through a whole run, so that what it accepts can be generated.
Listing only lowers the manifest.
-/

namespace BuilderSynthesis.Command

def descriptions (context : Run.Context) (severity : Run.Severity) : List String :=
  (context.diagnostics.filter (fun diagnostic => diagnostic.severity == severity)).map
    Run.Diagnostic.description

def finalHierarchy (context : Run.Context) : Schema.Hierarchy :=
  context.hierarchy.getD {}

def check (manifest : Manifest) (path : String) : Except Failure Report.Check := do
  let context ← (({} : Run.Pipeline).run manifest).result.mapError Failure.unchecked
  let hierarchy := finalHierarchy context
  return {
    path := path
    errors := descriptions context .error
    warnings := descriptions context .warning
    infos := descriptions context .info
    classCount := hierarchy.size
    builderCount := context.generated
    tree := hierarchy.tree "    " }

def list (manifest : Manifest) (asJson : Bool) : Except Failure Report.Listing := do
  let hierarchy ← manifest.lower.mapError Failure.unlisted
  return {
    classCount := hierarchy.size
    tree := hierarchy.tree "  "
    json := if asJson then some hierarchy.json.pretty else none }

end BuilderSynthesis.Command
