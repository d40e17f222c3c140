/-
  LEB128 numbers at a position of a byte string.

  A position past the end is like the end: there is nothing to read.  Errors carry the position
  where the number starts, whatever byte was at fault.
-/
import WasmBinary.Error

namespace WasmBinary.Leb128

/-- The unsigned number at `pos`. -/
def readUnsigned (data : Bytes) (pos : Nat) : Except Error (Reading Nat) :=
  (decodeUnsigned (data.drop pos)).mapError (Error.number pos)

/-- The signed number at `pos`. -/
def readSigned (data : Bytes) (pos : Nat) : Except Error (Reading Int) :=
  (decodeSigned (data.drop pos)).mapError (Error.number pos)

/-- The unsigned encoding of an integer that must not be negative. -/
def encodeNonNegative (value : Int) : Except Error Bytes :=
  if value < 0 then .error (.negative value) else .ok (encodeUnsigned value.toNat)

end WasmBinary.Leb128
