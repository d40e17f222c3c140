/-
  Hex dumps: sixteen bytes a line, in hexadecimal and as characters.

  A line is the offset of its first byte in at least four hexadecimal digits, two blanks, the
  bytes in a column of 48 characters, one blank, and one character for each byte: the character
  itself where it is printable ASCII, and a point everywhere else.  Nothing in a line can be
  mistaken for the end of the line.
-/
import WasmBinary.Text.Hex

namespace WasmBinary.HexDump

/-- How many bytes stand on a line. -/
def width : Nat := 16

/-- How many characters the hexadecimal column takes: two digits and a blank for each byte. -/
def column : Nat := 3 * width

/-- Printable ASCII stands for itself. -/
def shown (b : UInt8) : Char :=
  if 0x20 ≤ b ∧ b ≤ 0x7E then Char.ofNat b.toNat else '.'

/-- One line, without its end. -/
def line (offset : Nat) (data : Bytes) : List Char :=
  Hex.digits 4 offset ++ [' ', ' '] ++ (Hex.spaced data).rightpad column ' ' ++ [' ']
    ++ data.map shown

/-- The lines in order, each ended by a newline. -/
def text (data : Bytes) : String :=
  String.ofList <| List.flatten <|
    (chunks width data).mapIdx fun i piece => line (width * i) piece ++ ['\n']

end WasmBinary.HexDump
