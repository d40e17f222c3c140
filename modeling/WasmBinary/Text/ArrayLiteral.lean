/-
  Array literals: bytes as the body of a TypeScript function that returns them.

  A comment tells a name and the number of bytes.  The bytes follow as hexadecimal tokens, twelve
  a line, every line indented by four blanks and ended by a comma.  There is no newline at the end.
-/
import WasmBinary.Text.Hex

namespace WasmBinary.ArrayLiteral

/-- How many bytes stand on a line. -/
def width : Nat := 12

/-- A byte as a token. -/
def token (b : UInt8) : List Char :=
  ['0', 'x'] ++ Hex.byte b

/-- One line of tokens, without its end. -/
def line (data : Bytes) : List Char :=
  [' ', ' ', ' ', ' '] ++ [',', ' '].intercalate (data.map token) ++ [',']

/-- The comment and the opening of the literal. -/
def opening (data : Bytes) (name : String) : String :=
  "// " ++ name ++ " - " ++ toString data.length ++ " bytes\nreturn new Uint8Array([\n"

/-- The whole function body. -/
def text (data : Bytes) (name : String) : String :=
  opening data name
    ++ String.ofList ((chunks width data).flatMap fun piece => line piece ++ ['\n'])
    ++ "]);"

end WasmBinary.ArrayLiteral
