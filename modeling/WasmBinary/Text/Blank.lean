/-
  Blank characters, and trimming.

  The blanks are the characters with the Unicode property White_Space.  There are twenty-five of
  them, six within ASCII.
-/

namespace WasmBinary.Blank

/-- The code points with the property White_Space. -/
def codePoints : List Nat :=
  [ 0x09, 0x0A, 0x0B, 0x0C, 0x0D, 0x20, 0x85, 0xA0, 0x1680, 0x2000, 0x2001, 0x2002, 0x2003,
    0x2004, 0x2005, 0x2006, 0x2007, 0x2008, 0x2009, 0x200A, 0x2028, 0x2029, 0x202F, 0x205F,
    0x3000 ]

/-- Whether a character is blank. -/
def isBlank (c : Char) : Bool :=
  codePoints.contains c.toNat

/-- Takes the blanks off both ends. -/
def trim (text : List Char) : List Char :=
  ((text.dropWhile isBlank).reverse.dropWhile isBlank).reverse

end WasmBinary.Blank
