import BuilderSynthesis.CommandLine.Request
import BuilderSynthesis.Manifest.Starter

/-!
Contract: what a request puts on the terminal and how it ends.

Arguments that cannot be understood end with 2 and everything else that fails ends
with 1; in both cases there is nothing on the output.
-/

namespace BuilderSynthesis.CommandLine

open BuilderSynthesis.Report (Line)

structure Ending where
  code : Nat
  output : String := ""
  alerts : String := ""
deriving DecidableEq, Repr

def versionText : String := "fluent 0.1.0"

def Ending.ofLines (lines : List Line) : Ending :=
  ⟨0, Report.outputText lines, Report.alertText lines⟩

def Ending.ofFailure (failure : Command.Failure) : Ending :=
  let lines := failure.chain ++ failure.advice?.toList
  { code := 1, alerts := Report.textOf (lines.map Line.alert) }

/-- The end of a program with arguments that cannot be understood. -/
def Ending.ofFault (fault : UsageFault) : Ending :=
  { code := 2, alerts := Report.textOf [.alert ("error: " ++ fault.message)] }

/-- What is said about a new manifest in a directory. -/
def createdLines (path directory : String) : List Line :=
  [.block ("Created " ++ path), .blank, .heading "Next steps"] ++
    (if Files.isHere directory then [] else [.block ("  cd " ++ directory)]) ++
    [.block "  fluent check", .block "  fluent generate --dry-run"]

/-- The end of a check; a manifest with errors is a failure that is reported in full. -/
def Ending.ofCheck (check : Report.Check) : Ending :=
  { Ending.ofLines check.lines with code := if check.isValid then 0 else 1 }

/-- The end of a step that gives a report or fails. -/
def Ending.ofResult (lines : α → Ending) : Except Command.Failure α → Ending
  | .ok value => lines value
  | .error failure => .ofFailure failure

def withManifest [Monad m] (access : Files.Access m) (path : String)
    (next : Manifest → m Ending) : m Ending := do
  match ← Manifest.openFile access path with
  | .error problem => return .ofFailure (.refused problem)
  | .ok file => next file.manifest

def Request.perform [Monad m] (access : Files.Access m) : Request → m Ending
  | .version => return .ofLines [.block versionText]
  | .create package directory => do
      return .ofResult (fun path => .ofLines (createdLines path directory))
        (← Command.create access package directory)
  | .generate schema options =>
      withManifest access schema (fun manifest => do
        return .ofResult (fun generation => .ofLines generation.lines)
          (← Command.generate access manifest ((Files.parent? schema).getD "") options))
  | .check schema =>
      withManifest access schema (fun manifest =>
        return .ofResult Ending.ofCheck (Command.check manifest schema))
  | .list schema asJson =>
      withManifest access schema (fun manifest =>
        return .ofResult (fun listing => .ofLines listing.lines)
          (Command.list manifest asJson))

def invoke [Monad m] (access : Files.Access m) (arguments : List String) : m Ending :=
  match Request.read arguments with
  | .ok request => request.perform access
  | .error fault => return .ofFault fault

end BuilderSynthesis.CommandLine
