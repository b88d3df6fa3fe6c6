import Strata.CommandLine.Outcome

/-! The command on the file system of the machine. -/
namespace Strata

def Storage.Failure.ofError (e : IO.Error) : Storage.Failure :=
  match e with
  | .noFileOrDirectory .. | .noSuchThing .. => .notFound
  | .permissionDenied .. => .permissionDenied
  | .alreadyExists .. => .alreadyExists
  | .inappropriateType _ code _ => if code = 20 then .notDirectory else .isDirectory
  | .invalidArgument _ code _ => if code = 36 then .nameTooLong else .other (toString e)
  | _ => .other (toString e)

/-- A call to the system, with its failure as a value. -/
def Storage.call {β : Type} (action : IO β) : IO (Except Storage.Failure β) := do
  match ← action.toBaseIO with
  | .ok b => return .ok b
  | .error e => return .error (.ofError e)

instance : Storage IO where
  read path := Storage.call (IO.FS.readBinFile path)
  createDirectories path := Storage.call (IO.FS.createDirAll path)
  write path bytes := Storage.call (IO.FS.writeBinFile path bytes)

end Strata

def main (arguments : List String) : IO UInt32 := do
  let outcome ← Strata.CommandLine.execute arguments
  (← IO.getStdout).putStr outcome.output
  (← IO.getStderr).putStr outcome.errors
  return outcome.exit.toUInt32
