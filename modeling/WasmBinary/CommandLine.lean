/-
  The command: a session with its output and its exit status.

  The environment is read first.  Where it is malformed nothing else happens: one line on the
  error stream, and status 2.  Otherwise a session is run.  Where it fails there is no output, and
  the status is 1.  Where it has an outcome, the report is printed unless the run is to be quiet,
  and the two listings of the bytes unless only the audit was wanted; the status is 0 if the report
  passes, and 1 if not.
-/
import WasmBinary.Session
import WasmBinary.Text.ArrayLiteral
import WasmBinary.Text.HexDump

namespace WasmBinary.CommandLine

/-- How the command ends. -/
inductive ExitStatus
  | passed
  | failed
  | misconfigured
deriving DecidableEq, Repr

/-- The number of a status. -/
def ExitStatus.code : ExitStatus → Nat
  | passed => 0
  | failed => 1
  | misconfigured => 2

/-- The two listings of the bytes, each behind an empty line. -/
def listings (data : Bytes) : String :=
  "\n" ++ ArrayLiteral.text data Fixture.name ++ "\n\n" ++ HexDump.text data

/-- What is printed about an outcome. -/
def output (config : Config) (outcome : Session.Outcome) : String :=
  (if config.quiet then "" else outcome.report.text) ++
    (if config.validateOnly then "" else listings outcome.encoded.bytes)

variable {m : Type → Type} [Monad m]

/-- Runs with a configuration. -/
def runWith (host : Host m) (config : Config) : m ExitStatus := do
  match ← Session.run host config with
  | .error failure =>
      host.note ⟨.error, .session, failure.message⟩
      return .failed
  | .ok outcome =>
      host.print (output config outcome)
      if outcome.report.passed then
        host.note ⟨.info, .session, "all checks passed"⟩
        return .passed
      else
        host.note ⟨.error, .session, "validation failed"⟩
        return .failed

/-- Runs as the environment asks. -/
def run (host : Host m) (env : Environment) : m ExitStatus := do
  match Config.ofEnvironment env with
  | .error e =>
      host.complain e.message
      return .misconfigured
  | .ok config => runWith (host.quietedBy config.threshold) config

end WasmBinary.CommandLine
