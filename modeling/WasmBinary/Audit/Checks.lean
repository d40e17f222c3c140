/-
  The checks that need no oracle.

  1. **Numbers** — reference values are encoded and compared with their known encodings.
  2. **Sizes** — the sizes recorded while writing are compared with the spans found by walking
     over the bytes.  A recorded part that is not found counts as zero bytes; a span of a name
     that was never recorded is a finding of its own.  The total comes last.
  3. **Bytes** — the magic number and the version at their places, and the first function body
     against an expected one.  Where no body is found there are no bytes and no offset.
-/
import WasmBinary.Module.Encode
import WasmBinary.Section.Index

namespace WasmBinary.Audit

/-! ## Numbers -/

/-- Naturals with their encodings. -/
def unsignedSamples : List (Nat × Bytes) :=
  [ (0, [0x00]), (1, [0x01]), (127, [0x7F]), (128, [0x80, 0x01]), (255, [0xFF, 0x01]),
    (256, [0x80, 0x02]), (16384, [0x80, 0x80, 0x01]) ]

/-- Integers with their signed encodings. -/
def signedSamples : List (Int × Bytes) :=
  [ (0, [0x00]), (1, [0x01]), (63, [0x3F]), (64, [0xC0, 0x00]), (127, [0xFF, 0x00]),
    (-1, [0x7F]), (-64, [0x40]), (-65, [0xBF, 0x7F]) ]

/-- Every sample is encoded and compared. -/
def numberFindings : List Finding :=
  (unsignedSamples.map fun (value, bytes) =>
    ⟨.leb128, "uleb128(" ++ toString value ++ ")", none, .bytes bytes,
      .bytes (Leb128.encodeUnsigned value)⟩) ++
  (signedSamples.map fun (value, bytes) =>
    ⟨.leb128, "sleb128(" ++ toString value ++ ")", none, .bytes bytes,
      .bytes (Leb128.encodeSigned value)⟩)

/-! ## Sizes -/

/-- A recorded size against the span that its name finds. -/
def recordedFinding (index : SectionIndex) (name : String) (length : Nat) : Finding :=
  let span := index.get? name
  ⟨.sectionSize, name, span.map (·.offset), .length length,
    .length ((span.map (·.length)).getD 0)⟩

/-- A span that nothing was recorded for. -/
def strayFinding (span : Span) : Finding :=
  ⟨.sectionSize, span.name.text, some span.offset, .length 0, .length span.length⟩

/-- Recorded sizes against spans, then the stray spans, then the total. -/
def sizeFindings (sizes : SectionSizes) (index : SectionIndex) (actualLength : Nat) :
    List Finding :=
  let recorded := sizes.entries.map fun (name, length) => (name.text, length)
  let names := recorded.map (·.1)
  (recorded.map fun (name, length) => recordedFinding index name length) ++
  ((index.spans.filter fun span => !names.contains span.name.text).map strayFinding) ++
  [⟨.totalSize, "total", none, .length actualLength, .length sizes.total⟩]

/-! ## Bytes -/

/-- The bytes of a region against expected ones. -/
def regionFinding (data : Bytes) (subject : String) (region : Option Region)
    (expected : Bytes) : Finding :=
  ⟨.bytes, subject, region.map (·.offset), .bytes expected,
    .bytes ((region.map (·.of data)).getD [])⟩

/-- Magic number, version and first function body. -/
def byteFindings (data : Bytes) (index : SectionIndex) (expectedBody : Bytes) : List Finding :=
  [ regionFinding data "magic" (some ⟨0, Header.magic.length⟩) Header.magic,
    regionFinding data "version" (some ⟨Header.magic.length, Header.version.length⟩)
      Header.version,
    regionFinding data "code body" (index.firstBody? data) expectedBody ]

end WasmBinary.Audit
