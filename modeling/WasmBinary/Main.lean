/-
  The program.

  The environment, the clock, the two streams and the files are those of the operating system.
  Programs cannot be started from here, so a reference compiler that is asked for is looked up and
  then reported as unavailable; an audit does not fail for that.
-/
import WasmBinary.CommandLine

namespace WasmBinary.Main

/-- What an error of the operating system says about a path. -/
def faultOf (e : IO.Error) : FileFault :=
  match e with
  | .noFileOrDirectory .. => .notFound
  | .inappropriateType _ 20 _ => .notADirectory
  | .inappropriateType _ 21 _ => .isADirectory
  | e => .other (toString e)

/-- The values of all settings. -/
def environment : IO Environment := do
  let entries ← Setting.all.mapM fun setting => return (setting.key, ← IO.getEnv setting.key)
  return fun key => (entries.lookup key).join

/-- Whether a path leads to something that can be opened. -/
def opens (path : String) : IO Bool :=
  try
    let _ ← IO.FS.Handle.mk path .read
    return true
  catch _ => return false

/-- Looks a program up, and tells why it has no answer. -/
def explain (program : String) : IO Unavailable := do
  let directories := ((← IO.getEnv "PATH").getD "").splitOn ":"
  let candidates := if program.contains '/' then [program]
    else if program = "" then []
    else directories.map fun directory => directory ++ "/" ++ program
  match ← candidates.findM? opens with
  | none => return ⟨(CompilerFault.missing program).reason⟩
  | some path =>
      return ⟨(CompilerFault.notStarted path (.other "programs cannot be started")).reason⟩

/-- The operating system, for a program that was started at a moment of its clock. -/
def host (start : Nat) : Host IO where
  compile compiler _ := return ([], .error (← explain compiler.program))
  save path data := do
    try
      IO.FS.writeBinFile path ⟨data.toArray⟩
      return .ok ()
    catch e => return .error (faultOf e)
  note record := do
    IO.eprintln (record.stampedLine ((← IO.monoMsNow) - start))
  print text := IO.print text
  complain line := IO.eprintln line

end WasmBinary.Main

/-- Runs as the environment asks, and ends with the status of the run. -/
def main : IO UInt32 := do
  let start ← IO.monoMsNow
  let environment ← WasmBinary.Main.environment
  let status ← WasmBinary.CommandLine.run (WasmBinary.Main.host start) environment
  return UInt32.ofNat status.code
