/-
  Audits: everything that is checked about a written module.

  `inspect` walks over the bytes and makes all findings; it fails only where the walk fails.
  `audit` adds the verdict of an oracle, where one was asked.

  A report PASSES when every finding does and the oracle did not disagree.  An oracle that is
  unavailable is no objection.  `Report.result` tells the same decision as an error: the first
  finding that fails, or else the oracle's difference.
-/
import WasmBinary.Audit.Checks
import WasmBinary.Audit.Oracle

namespace WasmBinary

/-- The findings of an audit, with the verdict of an oracle if one was asked. -/
structure Report where
  findings : List Finding := []
  oracle : Option Verdict := none
deriving DecidableEq, Repr

namespace Report

/-- The findings that fail, in order. -/
def failures (r : Report) : List Finding :=
  r.findings.filter fun f => !f.passed

/-- The oracle's objection, if it has one. -/
def objection? (r : Report) : Option Finding :=
  r.oracle.bind Verdict.finding?

/-- No finding fails, and the oracle does not disagree. -/
def passed (r : Report) : Bool :=
  r.failures.isEmpty && !r.oracle.any Verdict.objects

/-- The report itself when it passes, and otherwise its first failure. -/
def result (r : Report) : Except Error Report :=
  match r.failures.head?.or r.objection? with
  | some f => .error (.mismatch f)
  | none => .ok r

/-- A finding on a line of its own, behind its status. -/
def findingLine (f : Finding) : String :=
  (if f.passed then "ok   " else "FAIL ") ++ f.text ++ "\n"

/-- The line for an oracle's verdict. -/
def verdictLine : Verdict → String
  | .unavailable reason => "skip oracle: " ++ reason ++ "\n"
  | .identical length => "ok   oracle: identical, " ++ toString length ++ " bytes\n"
  | .different ours reference firstDiff =>
      "FAIL " ++ (Verdict.differenceFinding ours reference firstDiff).text ++ "\n"

/-- The findings in order, then the verdict. -/
def text (r : Report) : String :=
  String.join (r.findings.map findingLine) ++ (r.oracle.map verdictLine).getD ""

end Report

namespace Audit

/-- All findings about a written module. -/
def inspect (encoded : Encoded) (expectedBody : Bytes) : Except Error (List Finding) := do
  let index ← SectionIndex.parse encoded.bytes
  return numberFindings ++ sizeFindings encoded.sizes index encoded.bytes.length
    ++ byteFindings encoded.bytes index expectedBody

/-- The findings with an oracle's verdict, where an answer was had. -/
def audit (encoded : Encoded) (expectedBody : Bytes) (answer : Option OracleAnswer) :
    Except Error Report := do
  let findings ← inspect encoded expectedBody
  return ⟨findings, answer.map (Verdict.ofAnswer encoded.bytes)⟩

end Audit

end WasmBinary
