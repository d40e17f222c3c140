/-
  Instructions and expressions.

  An instruction is an opcode byte and, for some opcodes, one immediate: an index as an unsigned
  LEB128 number, a constant as a signed one.  An expression is a run of instructions closed by
  the opcode `end`, which is no instruction of its own here, so that every expression is closed
  exactly once.
-/
import WasmBinary.Types

namespace WasmBinary

/-- The instructions. -/
inductive Instr
  | unreachable
  | nop
  | ret
  | drop
  | call (func : FuncIdx)
  | localGet (idx : LocalIdx)
  | i32Const (value : Int32)
  | i64Const (value : Int64)
deriving DecidableEq, Repr

namespace Instr

/-- The first byte of an instruction. -/
def opcode : Instr → UInt8
  | unreachable => 0x00
  | nop => 0x01
  | ret => 0x0F
  | call _ => 0x10
  | drop => 0x1A
  | localGet _ => 0x20
  | i32Const _ => 0x41
  | i64Const _ => 0x42

/-- What follows the opcode. -/
def immediate : Instr → Bytes
  | call x => Leb128.encodeUnsigned x.toNat
  | localGet x => Leb128.encodeUnsigned x.toNat
  | i32Const n => Leb128.encodeSigned n.toInt
  | i64Const n => Leb128.encodeSigned n.toInt
  | unreachable | nop | ret | drop => []

/-- The opcode, then the immediate. -/
def encode (i : Instr) : Bytes :=
  i.opcode :: i.immediate

end Instr

/-- A run of instructions; the closing `end` is implied. -/
abbrev Expr := List Instr

namespace Expr

/-- The opcode that closes an expression. -/
def endOpcode : UInt8 := 0x0B

/-- The instructions in order, then `end`. -/
def encode (e : Expr) : Bytes :=
  e.flatMap Instr.encode ++ [endOpcode]

theorem opcode_ne_endOpcode (i : Instr) : i.opcode ≠ endOpcode := by
  cases i <;> simp [Instr.opcode, endOpcode]

end Expr

end WasmBinary
