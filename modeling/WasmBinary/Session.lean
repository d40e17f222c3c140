/-
  Sessions: building the fixture, auditing it and saving it.

  1. **The host** is everything outside: a reference compiler that can be asked, files that can be
     written, a log, and two streams for text.  A session is written for any host in any monad, so
     the same session runs on an operating system and on a model of one.

  2. **The order** of a session is fixed.  The fixture is built and written; its bytes are
     inspected; the compiler is asked, if the configuration wants it; and the bytes are saved, if
     the configuration names a path.

  3. **Saving** is for bytes that passed.  A report that does not pass is no failure of the
     session: it is part of the outcome, and the file at the path is left alone.
-/
import WasmBinary.Compiler
import WasmBinary.Config
import WasmBinary.Fixture
import WasmBinary.Journal.Entries

namespace WasmBinary

/-- What a session needs from the outside. -/
structure Host (m : Type → Type) where
  /-- Compiles a text: what there is to log about it, and the answer. -/
  compile : ReferenceCompiler → String → m (Journal × OracleAnswer)
  /-- Replaces the content of the file at a path. -/
  save : String → Bytes → m (Except FileFault Unit)
  /-- Adds a record to the log. -/
  note : Record → m Unit
  /-- Writes text to the output. -/
  print : String → m Unit
  /-- Writes a line to the error stream. -/
  complain : String → m Unit

namespace Host

variable {m : Type → Type} [Monad m]

/-- Adds records to the log. -/
def noteAll (host : Host m) (journal : Journal) : m Unit :=
  journal.forM host.note

/-- The same host, whose log takes only what a threshold admits. -/
def quietedBy (host : Host m) (threshold : Threshold) : Host m :=
  { host with note := fun r => if threshold.admits r.level then host.note r else pure () }

end Host

namespace Session

/-- Why a session has no outcome. -/
inductive Failure
  | module (error : Error)
  | file (fault : FileFault)
deriving DecidableEq, Repr

/-- How a failure is told. -/
def Failure.message : Failure → String
  | .module error => error.message
  | .file fault => "i/o error: " ++ fault.message

/-- What a session comes to. -/
structure Outcome where
  encoded : Encoded
  report : Report
deriving DecidableEq, Repr

variable {m : Type → Type} [Monad m]

/-- Asks the compiler about the fixture, if the configuration wants it. -/
def ask (host : Host m) (config : Config) : m (Option OracleAnswer) := do
  if config.oracle then
    let (journal, answer) ← host.compile ⟨config.program, config.timeout⟩ Fixture.wat
    host.noteAll journal
    return some answer
  else return none

/-- Audits written bytes, with the compiler's answer where it is wanted.  Bytes that cannot be
    walked over are not worth asking about. -/
def audit (host : Host m) (config : Config) (encoded : Encoded) (expectedBody : Bytes) :
    m (Except Error Report) := do
  host.noteAll (Journal.ofInspect encoded expectedBody)
  match Audit.inspect encoded expectedBody with
  | .error e => return .error e
  | .ok findings =>
      let verdict := (← ask host config).map (Verdict.ofAnswer encoded.bytes)
      host.noteAll ((verdict.map Journal.ofVerdict).getD [])
      return .ok ⟨findings, verdict⟩

/-- Saves the bytes of an outcome, if its report passes. -/
def save (host : Host m) (path : String) (outcome : Outcome) : m (Except FileFault Unit) := do
  if outcome.report.passed then
    match ← host.save path outcome.encoded.bytes with
    | .error fault => return .error fault
    | .ok () =>
        host.note ⟨.info, .session, "wrote " ++ path⟩
        return .ok ()
  else
    host.note ⟨.warn, .session, "validation failed, not writing " ++ path⟩
    return .ok ()

/-- Builds, writes, audits and saves the fixture. -/
def run (host : Host m) (config : Config) : m (Except Failure Outcome) := do
  host.noteAll (Journal.ofDeclarations {} Fixture.declarations)
  match Fixture.module with
  | .error e => return .error (.module e)
  | .ok fixture =>
      host.noteAll (Journal.ofEncode fixture)
      match fixture.encode with
      | .error e => return .error (.module e)
      | .ok encoded =>
          host.note ⟨.info, .session, "built " ++ toString encoded.bytes.length ++ " bytes"⟩
          match ← audit host config encoded Fixture.expectedBody with
          | .error e => return .error (.module e)
          | .ok report =>
              let outcome : Outcome := ⟨encoded, report⟩
              match config.output with
              | none => return .ok outcome
              | some path =>
                  match ← save host path outcome with
                  | .error fault => return .error (.file fault)
                  | .ok () => return .ok outcome

end Session

end WasmBinary
