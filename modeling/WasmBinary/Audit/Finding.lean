/-
  Findings: single comparisons of something expected with something seen.

  A finding passes exactly when the two agree.  Its text names the check, the subject, the offset
  if there is one, and both sides; a length and a byte string never agree.
-/
import WasmBinary.Text.Hex

namespace WasmBinary

/-- The kinds of checks. -/
inductive Check
  | leb128
  | sectionSize
  | totalSize
  | bytes
  | oracle
deriving DecidableEq, Repr

/-- What a check is called. -/
def Check.text : Check → String
  | leb128 => "leb128"
  | sectionSize => "section size"
  | totalSize => "total size"
  | bytes => "bytes"
  | oracle => "oracle"

/-- One side of a comparison. -/
inductive Observed
  | length (n : Nat)
  | bytes (data : Bytes)
deriving DecidableEq, Repr

/-- A length in decimal, a byte string in brackets. -/
def Observed.text : Observed → String
  | length n => toString n ++ " bytes"
  | bytes data => "[" ++ String.ofList (Hex.spaced data) ++ "]"

/-- A comparison that a check has made. -/
structure Finding where
  check : Check
  subject : String
  offset : Option Nat
  expected : Observed
  actual : Observed
deriving DecidableEq, Repr

namespace Finding

/-- A finding passes when what was seen is what was expected. -/
def passed (f : Finding) : Bool :=
  f.expected == f.actual

/-- The offset as it stands in the text of a finding: at least two hexadecimal digits. -/
def offsetText : Option Nat → String
  | none => ""
  | some offset => " @" ++ String.ofList (Hex.digits 2 offset)

/-- A finding on one line, as far as its subject is one line. -/
def text (f : Finding) : String :=
  f.check.text ++ " " ++ f.subject ++ offsetText f.offset
    ++ ": expected " ++ f.expected.text ++ ", found " ++ f.actual.text

theorem passed_iff (f : Finding) : f.passed = true ↔ f.expected = f.actual := by
  simp [passed]

end Finding

end WasmBinary
