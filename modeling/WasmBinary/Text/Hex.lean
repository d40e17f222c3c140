/-
  Lower-case hexadecimal text.

  Three renderings are used throughout: a number with a least width (`digits`), one byte as two
  digits (`byte`), and a byte string as its bytes separated by single spaces (`spaced`).  All
  three give character lists, because the layouts that hold them count characters.
-/
import WasmBinary.Bytes

namespace WasmBinary.Hex

/-- The digits of `n`, with zeros in front up to `width` characters. -/
def digits (width n : Nat) : List Char :=
  (Nat.toDigits 16 n).leftpad width '0'

/-- A byte is always two digits. -/
def byte (b : UInt8) : List Char :=
  digits 2 b.toNat

/-- The bytes in order, one space between two neighbours. -/
def spaced (data : Bytes) : List Char :=
  [' '].intercalate (data.map byte)

/-- A number as it is written in messages: after `0x`, without padding. -/
def tagged (n : Nat) : String :=
  "0x" ++ String.ofList (digits 1 n)

end WasmBinary.Hex
