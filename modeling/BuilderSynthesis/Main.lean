import BuilderSynthesis.CommandLine.Invocation

/-!
Contract: the program on a machine.

Owns the operations on real files and the streams; everything that is decided is
decided elsewhere.
-/

namespace BuilderSynthesis

def succeeds (action : IO Unit) : IO Bool := do
  match ← action.toBaseIO with
  | .ok _ => return true
  | .error _ => return false

def machineFiles : Files.Access IO where
  read path := do
    match ← (IO.FS.readFile path).toBaseIO with
    | .ok text => return some text
    | .error _ => return none
  isPresent path := succeeds (discard (IO.FS.realPath path))
  makeDirectory path :=
    if path.isEmpty then return true else succeeds (IO.FS.createDirAll path)
  write path content := succeeds (IO.FS.writeFile path content)

end BuilderSynthesis

def main (arguments : List String) : IO UInt32 := do
  let ending ← BuilderSynthesis.CommandLine.invoke BuilderSynthesis.machineFiles arguments
  (← IO.getStdout).putStr ending.output
  (← IO.getStderr).putStr ending.alerts
  return ending.code.toUInt32
