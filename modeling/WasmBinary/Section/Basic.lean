/-
  Sections, and the header in front of them.

  A section is its id byte, the length of its payload as an unsigned LEB128 number, and the
  payload.
-/
import WasmBinary.Section.Kind
import WasmBinary.Vec

namespace WasmBinary

namespace Header

/-- The four bytes that every binary module starts with: a zero byte and `asm`. -/
def magic : Bytes := [0x00, 0x61, 0x73, 0x6D]

/-- Version 1 of the format, which follows the magic number. -/
def version : Bytes := [0x01, 0x00, 0x00, 0x00]

/-- What comes before the first section. -/
def bytes : Bytes := magic ++ version

/-- The length of the header. -/
def length : Nat := bytes.length

end Header

/-- A kind of section with its payload. -/
structure Section where
  kind : SectionKind
  payload : Bytes
deriving DecidableEq, Repr

namespace Section

/-- The id byte, then the payload as a byte vector. -/
def encode (s : Section) : Bytes :=
  s.kind.id :: Vec.ofBytes s.payload

/-- How many bytes the section takes, id byte and length in front included. -/
def encodedLength (s : Section) : Nat :=
  1 + (Leb128.encodeUnsigned s.payload.length).length + s.payload.length

theorem length_encode (s : Section) : s.encode.length = s.encodedLength := by
  simp [encode, encodedLength, Vec.ofBytes]; omega

/-- The section that holds a vector of items.  Where there is no item there is no section. -/
def ofItems? (kind : SectionKind) (items : List Bytes) : Option Section :=
  if items.isEmpty then none else some ⟨kind, Vec.ofItems items⟩

end Section

end WasmBinary
