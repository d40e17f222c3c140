/-
  Byte texts: text in which every character stands for one byte.

  Paths are bytes, and so is what scripts count, cut and compare; neither need be text at all.  A
  byte text is a string whose characters are all below 256; each of them is the byte of its code
  point.  So bytes are read and written without loss, and the literals of ASCII mean what they say.
-/

namespace WasmBinary.ByteText

/-- The character that stands for a byte. -/
def charOf (b : UInt8) : Char := Char.ofNat b.toNat

/-- The byte that a character stands for. -/
def byteOf (c : Char) : UInt8 := c.toNat.toUInt8

/-- Bytes as a byte text. -/
def ofBytes (data : ByteArray) : String :=
  data.foldl (fun text b => text.push (charOf b)) ""

/-- The bytes that a byte text stands for. -/
def toBytes (text : String) : ByteArray :=
  text.foldl (fun data c => data.push (byteOf c)) .empty

/-- A text, encoded. -/
def ofText (text : String) : String := ofBytes text.toUTF8

/-- The text that a byte text encodes.  Bytes that encode none are taken for characters. -/
def toText (text : String) : String := (String.fromUTF8? (toBytes text)).getD text

end WasmBinary.ByteText
