/-
  The machine as a host.

  A desk is a machine together with everything that a session has written: its log, its output and
  its error stream.  Records stand in the log and, as lines, in the error stream.  What the programs
  of the machine do is left open, as it is for the machine.
-/
import WasmBinary.CommandLine
import WasmBinary.Machine.System

namespace WasmBinary.Machine

/-- A machine with what was written at it. -/
structure Desk where
  machine : Machine
  journal : Journal := []
  output : String := ""
  errors : List String := []

namespace Desk

/-- Sessions at a desk. -/
abbrev At := StateM Desk

/-- Asks a compiler on the machine. -/
def compile (programs : Programs) (compiler : ReferenceCompiler) (wat : String) :
    At (Journal × OracleAnswer) := do
  let desk ← get
  let (result, machine) := compiler.compile (Machine.system programs) wat desk.machine
  set { desk with machine }
  return result

/-- Writes a file of the machine. -/
def save (path : String) (data : Bytes) : At (Except FileFault Unit) := do
  let desk ← get
  let m := desk.machine
  match m.files.write m.directory (ByteText.ofText path) ⟨data.toArray⟩ with
  | .error fault => return .error fault
  | .ok files =>
      set { desk with machine := { m with files } }
      return .ok ()

/-- The host that writes to the desk. -/
def host (programs : Programs) : Host At where
  compile := compile programs
  save := save
  note r := modify fun desk =>
    { desk with journal := desk.journal ++ [r], errors := desk.errors ++ [r.line] }
  print text := modify fun desk => { desk with output := desk.output ++ text }
  complain line := modify fun desk => { desk with errors := desk.errors ++ [line] }

end Desk

end WasmBinary.Machine
