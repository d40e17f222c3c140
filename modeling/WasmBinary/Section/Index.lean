/-
  The section index: where the parts of a binary module lie.

  1. **The walk** steps from section to section by the lengths in front of the payloads, without
     looking into a payload.  It ends at the end of the input, or stops at the first section that
     cannot be stepped over: its length cannot be read, or is more than what is left.  A `Walk`
     keeps the spans found up to that point together with what stopped it.

  2. **The index** is a walk that reached the end, behind the span of the header.  Its spans lie
     side by side from the first byte to the last.

  3. **Looking up** a name finds the LAST section of that name: a section that is repeated hides
     the earlier ones.

  Lengths are 64-bit words.  The length that a section declares in full, with its id and the
  length itself, is cut off at the largest word.
-/
import WasmBinary.Leb128.Read
import WasmBinary.Section.Basic
import WasmBinary.Sum

namespace WasmBinary

/-- Where a part starts, and how many bytes it takes with its id and its length in front. -/
structure Span where
  name : SectionName
  offset : Nat
  length : Nat
deriving DecidableEq, Repr

namespace Span

/-- The span of the header. -/
def header : Span := ⟨.header, 0, Header.length⟩

/-- The largest length that can be told. -/
def largest : Nat := UInt64.size - 1

end Span

/-- Spans found one after the other, and the error that ended the search, if one did. -/
structure Walk where
  spans : List Span
  stop : Option Error
deriving DecidableEq, Repr

namespace Walk

/-- Walks over the sections in `data`, which starts at `offset` and has `available` bytes. -/
def sections (offset available : Nat) : Bytes → Walk
  | [] => ⟨[], none⟩
  | id :: rest =>
      match Leb128.decodeUnsigned rest with
      | .error fault => ⟨[], some (.number (offset + 1) fault)⟩
      | .ok size =>
          let declared := min (size.value + (1 + size.length)) Span.largest
          if available < declared then ⟨[], some (.truncatedSection offset declared available)⟩
          else
            let after := sections (offset + declared) (available - declared)
              ((id :: rest).drop declared)
            ⟨⟨.ofId id, offset, declared⟩ :: after.spans, after.stop⟩
termination_by data => data.length
decreasing_by
  have : 1 ≤ declared := by simp only [declared, Span.largest, UInt64.size]; omega
  simp only [List.length_drop, List.length_cons]
  omega

/-- Walks over a whole module: the header has to be there before any section is looked at. -/
def ofModule (data : Bytes) : Walk :=
  let found := data.take Header.magic.length
  let rest := data.drop Header.magic.length
  let foundVersion := rest.take Header.version.length
  if found ≠ Header.magic then ⟨[], some (.badMagic found)⟩
  else if foundVersion ≠ Header.version then ⟨[], some (.badVersion foundVersion)⟩
  else sections Header.length (data.length - Header.length) (rest.drop Header.version.length)

end Walk

/-- The parts of a module that was walked over to its end. -/
structure SectionIndex where
  spans : List Span
deriving DecidableEq, Repr

namespace SectionIndex

/-- The index of a module. -/
def parse (data : Bytes) : Except Error SectionIndex :=
  let walk := Walk.ofModule data
  match walk.stop with
  | none => .ok ⟨Span.header :: walk.spans⟩
  | some e => .error e

/-- The last span that a text designates. -/
def get? (index : SectionIndex) (name : String) : Option Span :=
  index.spans.reverse.find? (·.name.designatedBy name)

/-- The length of all spans together. -/
def total (index : SectionIndex) : Nat :=
  sumOf (index.spans.map (·.length))

/-- The body of the first function: behind the id and the length of the code section, the number
    of bodies and the body's own length.  There is none when there is no code section, when the
    section does not fit into the bytes or holds no body, and when the body leaves the section. -/
def firstBody? (index : SectionIndex) (data : Bytes) : Option Region := do
  let code ← index.get? SectionKind.code.name
  let limit := code.offset + code.length
  if data.length < limit then none
  let upTo := data.take limit
  let start := code.offset + 1
  let size ← (Leb128.readUnsigned upTo start).toOption
  let start := start + size.length
  let count ← (Leb128.readUnsigned upTo start).toOption
  if count.value = 0 then none
  let start := start + count.length
  let body ← (Leb128.readUnsigned upTo start).toOption
  let start := start + body.length
  if limit - start < body.value then none
  return ⟨start, body.value⟩

end SectionIndex

end WasmBinary
