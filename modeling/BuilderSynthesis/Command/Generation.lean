import BuilderSynthesis.Command.Inspection
import BuilderSynthesis.Java.SourceFile
import BuilderSynthesis.Report.Generation

/-!
Contract: the command that generates sources.

What a user asks for replaces what the manifest says before the run begins. A
directory that the manifest names is looked up from the manifest's own directory,
one that the user names is taken as it is.
-/

namespace BuilderSynthesis.Command

/-- What a user asks for instead of what the manifest says. -/
structure GenerationOptions where
  output : Option String := none
  policy : Option Schema.Policy := none
  /-- Whether sources are shown and not saved. -/
  isDryRun : Bool := false
deriving DecidableEq, Repr

def GenerationOptions.applyTo (options : GenerationOptions) (manifest : Manifest) : Manifest :=
  { manifest with
    settings := { manifest.settings with
      policy := options.policy.getD manifest.settings.policy
      output := options.output <|> manifest.settings.output } }

def outputDirectory (manifestDirectory : String) (requested configured : Option String) :
    String :=
  match requested, configured with
  | some directory, _ => directory
  | none, some directory => Files.inDirectory manifestDirectory directory
  | none, none => manifestDirectory

def generationReport (context : Run.Context) (delivery : Report.Delivery) :
    Report.Generation :=
  let hierarchy := finalHierarchy context
  { classCount := hierarchy.size
    builderCount := context.generated
    policy := context.config.policy.strategyName
    warnings := descriptions context .warning
    tree := hierarchy.tree "  "
    delivery := delivery }

def generate [Monad m] (access : Files.Access m) (manifest : Manifest)
    (manifestDirectory : String) (options : GenerationOptions) :
    m (Except Failure Report.Generation) := do
  match (({} : Run.Pipeline).run (options.applyTo manifest)).result with
  | .error failure => return .error (.ungenerated failure)
  | .ok context =>
      let files := Java.sourceFiles context.model
      if options.isDryRun then
        return .ok (generationReport context (.shown files))
      else
        let directory :=
          outputDirectory manifestDirectory options.output context.config.output
        match ← Files.saveAll access directory files with
        | .error path => return .error (.unsaved path)
        | .ok savings => return .ok (generationReport context (.saved directory savings))

end BuilderSynthesis.Command
