/-
  What can go wrong with modules and their bytes.

  Every error is a cause with its data.  `Error.message` is the only place where causes become
  text.
-/
import WasmBinary.Audit.Finding
import WasmBinary.Leb128.Basic
import WasmBinary.Module.Rules

namespace WasmBinary

/-- The causes of failure. -/
inductive Error
  /-- A negative number was to be written without a sign. -/
  | negative (value : Int)
  /-- No number could be read at an offset. -/
  | number (offset : Nat) (fault : Leb128.Fault)
  /-- A section declares more bytes than there are. -/
  | truncatedSection (offset declared available : Nat)
  /-- The bytes do not start as a module does. -/
  | badMagic (found : Bytes)
  /-- The bytes are a module of a version that is not known. -/
  | badVersion (found : Bytes)
  /-- A module breaks a rule. -/
  | invalid (violation : Violation)
  /-- A function is imported after one was defined. -/
  | lateFuncImport
  /-- A memory is imported after one was defined. -/
  | lateMemImport
  /-- A comparison failed. -/
  | mismatch (finding : Finding)
deriving DecidableEq, Repr

/-- How an error is told. -/
def Error.message : Error → String
  | negative value => "unsigned LEB128 requires a non-negative value, got " ++ toString value
  | number offset .unterminated => "unterminated LEB128 at offset " ++ Hex.tagged offset
  | number offset .overflow =>
      "LEB128 at offset " ++ Hex.tagged offset ++ " does not fit in 64 bits"
  | truncatedSection offset declared available =>
      "section at offset " ++ Hex.tagged offset ++ " declares " ++ toString declared
        ++ " bytes but only " ++ toString available ++ " remain"
  | badMagic found => "invalid wasm magic number: " ++ String.ofList (Hex.spaced found)
  | badVersion found =>
      "unsupported wasm version (expected 1): " ++ String.ofList (Hex.spaced found)
  | invalid violation => violation.message
  | lateFuncImport => "imports must be declared before local functions"
  | lateMemImport => "imports must be declared before local memories"
  | mismatch finding => "validation failed: " ++ finding.text

end WasmBinary
