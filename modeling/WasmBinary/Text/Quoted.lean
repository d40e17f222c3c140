/-
  Quoted text: a value as it is shown inside a message.

  The value stands between double quotes.  Quotes and backslashes in it have a backslash in front;
  newline, carriage return, tab and NUL are written by letter; any other character that would not
  be seen is written as `\u` with its code point in braces, in lower-case hexadecimal without
  padding.  Single quotes stay as they are.
-/
import WasmBinary.Text.Hex
import WasmBinary.Text.Unprintable

namespace WasmBinary.Quoted

/-- A character inside quotes. -/
def escape (c : Char) : List Char :=
  if c = '"' then ['\\', '"']
  else if c = '\\' then ['\\', '\\']
  else if c = '\n' then ['\\', 'n']
  else if c = '\r' then ['\\', 'r']
  else if c = '\t' then ['\\', 't']
  else if c.toNat = 0 then ['\\', '0']
  else if Unprintable.isUnprintable c then
    ['\\', 'u', Char.ofNat 0x7B] ++ Hex.digits 1 c.toNat ++ [Char.ofNat 0x7D]
  else [c]

/-- A text between quotes. -/
def text (s : String) : String :=
  String.ofList (['"'] ++ s.toList.flatMap escape ++ ['"'])

end WasmBinary.Quoted
