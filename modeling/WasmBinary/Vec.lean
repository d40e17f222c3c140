/-
  Vectors: a count in front, then the items.

  The binary format has one way to write a sequence: the number of items as an unsigned LEB128
  number, followed by the encodings of the items with nothing between them.  Byte vectors and
  names are the case where the items are bytes.
-/
import WasmBinary.Leb128.Basic

namespace WasmBinary.Vec

/-- A vector of items that are already encoded. -/
def ofItems (items : List Bytes) : Bytes :=
  Leb128.encodeUnsigned items.length ++ items.flatten

/-- A vector whose items are bytes. -/
def ofBytes (data : Bytes) : Bytes :=
  Leb128.encodeUnsigned data.length ++ data

/-- A name is the byte vector of its UTF-8 text. -/
def ofName (name : String) : Bytes :=
  ofBytes name.toUTF8.data.toList

end WasmBinary.Vec
