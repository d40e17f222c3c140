/-
  Oracles: outside producers of reference bytes.

  An oracle is handed a module in the text format.  It answers with bytes, or with the reason why
  it cannot.  A VERDICT compares the answer with our own bytes: they are identical, or they differ
  and the first position at which both have a byte and the bytes differ is told.  Where no such
  position exists one of the two is a proper beginning of the other, and the lengths differ.
-/
import WasmBinary.Audit.Finding

namespace WasmBinary

/-- Why an oracle has no bytes. -/
structure Unavailable where
  reason : String
deriving DecidableEq, Repr

/-- What an oracle may answer. -/
abbrev OracleAnswer := Except Unavailable Bytes

/-- A position at which two byte strings have different bytes. -/
structure Difference where
  offset : Nat
  ours : UInt8
  reference : UInt8
deriving DecidableEq, Repr

/-- The first difference of two byte strings that start at `offset`. -/
def Difference.first? (offset : Nat) : Bytes → Bytes → Option Difference
  | a :: ours, b :: reference =>
      if a = b then first? (offset + 1) ours reference else some ⟨offset, a, b⟩
  | _, _ => none

/-- What became of a comparison with an oracle. -/
inductive Verdict
  | unavailable (reason : String)
  | identical (length : Nat)
  | different (ours reference : Nat) (firstDiff : Option Difference)
deriving DecidableEq, Repr

namespace Verdict

/-- Compares our bytes with an oracle's answer. -/
def ofAnswer (ours : Bytes) : OracleAnswer → Verdict
  | .error u => unavailable u.reason
  | .ok reference =>
      if reference = ours then identical reference.length
      else different ours.length reference.length (Difference.first? 0 ours reference)

/-- Asks an oracle about a text, and compares. -/
def ask (oracle : String → OracleAnswer) (wat : String) (ours : Bytes) : Verdict :=
  ofAnswer ours (oracle wat)

/-- Whether a verdict is against our bytes. -/
def objects : Verdict → Bool
  | different .. => true
  | unavailable _ | identical _ => false

/-- A difference as a finding: the two bytes where they first differ, or else the two lengths. -/
def differenceFinding (ours reference : Nat) (firstDiff : Option Difference) : Finding :=
  match firstDiff with
  | some d =>
      ⟨.oracle, "reference binary", some d.offset, .bytes [d.reference], .bytes [d.ours]⟩
  | none => ⟨.oracle, "reference binary", none, .length reference, .length ours⟩

/-- The finding of a verdict that objects. -/
def finding? : Verdict → Option Finding
  | different ours reference firstDiff => some (differenceFinding ours reference firstDiff)
  | unavailable _ | identical _ => none

/-- A verdict has a finding exactly if it objects. -/
theorem isSome_finding? (v : Verdict) : v.finding?.isSome = v.objects := by
  cases v <;> rfl

end Verdict

end WasmBinary
