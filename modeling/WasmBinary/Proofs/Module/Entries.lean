/-
  The entries of a section, read one by one.

  The walk over a module looks into no payload, and the first body is as far as the program ever
  steps into one.  The readers here go on from there: through a section to its last entry.

  1. **Readers** — a reader is given the whole input and a position, and tells what stands there
     with the number of bytes it took.  One behind another (`andThen`), readers make up byte
     vectors, runs of items and vectors of items.

  2. **Read back** — `ReadsBack` says that bytes are read to their last one in any surroundings.
     What is written one behind another is read back by readers one behind another
     (`ReadsBack.andThen`); from items this passes to runs by induction, from runs to vectors, and
     from a vector to the section that holds it (`Span.entries?_of_encode`).

  3. **Written modules** — the function section and the code section give back one entry for each
     function, in the order of the functions (`read_function_sections`).  No number in either of
     them is larger than there are bytes, which is all that the bound on the bytes is for.
-/
import WasmBinary.Proofs.Module.Agreement
import WasmBinary.Proofs.Section.Lookup

namespace WasmBinary

/-! ## Readers -/

/-- What stands at a position of the input, with the number of bytes it took. -/
abbrev Reader (α : Type) := Bytes → Nat → Option (Leb128.Reading α)

namespace Reader

variable {α β : Type}

/-- A value that takes no bytes. -/
def done (value : α) : Reader α := fun _ _ => some ⟨value, 0⟩

/-- Reads on where the first reader ends. -/
def andThen (first : Reader α) (next : α → Reader β) : Reader β := fun data pos => do
  let front ← first data pos
  let rest ← next front.value data (pos + front.length)
  return ⟨rest.value, front.length + rest.length⟩

/-- An unsigned number. -/
def number : Reader Nat := fun data pos =>
  (Leb128.readUnsigned data pos).toOption

/-- So many bytes as they are; all of them have to be there. -/
def block (length : Nat) : Reader Bytes := fun data pos =>
  if pos + length ≤ data.length then some ⟨Region.of ⟨pos, length⟩ data, length⟩ else none

/-- A byte vector: its length, then as many bytes. -/
def byteVector : Reader Bytes :=
  number.andThen block

/-- So many items, one behind the other. -/
def run (item : Reader α) : Nat → Reader (List α)
  | 0 => done []
  | count + 1 => item.andThen fun first => (run item count).andThen fun rest => done (first :: rest)

/-- A vector of items: their count, then as many of them. -/
def vector (item : Reader α) : Reader (List α) :=
  number.andThen (run item)

/-! ## Read back -/

/-- The bytes are read to their last one and give the value, whatever stands before and behind. -/
def ReadsBack (read : Reader α) (written : Bytes) (value : α) : Prop :=
  ∀ before after, read (before ++ (written ++ after)) before.length
    = some ⟨value, written.length⟩

namespace ReadsBack

/-- Reading nothing gives back what nothing stands for. -/
theorem done (value : α) : ReadsBack (Reader.done value) [] value :=
  fun _ _ => rfl

/-- The second reader starts behind the bytes of the first one. -/
theorem andThen {first : Reader α} {next : α → Reader β} {front rest : Bytes} {x : α} {y : β}
    (hfirst : ReadsBack first front x) (hnext : ReadsBack (next x) rest y) :
    ReadsBack (first.andThen next) (front ++ rest) y := by
  intro before after
  have hfront : first (before ++ (front ++ rest ++ after)) before.length
      = some ⟨x, front.length⟩ := by
    rw [List.append_assoc]
    exact hfirst before (rest ++ after)
  have hrest : next x (before ++ (front ++ rest ++ after)) (before.length + front.length)
      = some ⟨y, rest.length⟩ := by
    rw [List.append_assoc, ← List.append_assoc before, ← List.length_append]
    exact hnext (before ++ front) after
  simp only [Reader.andThen, hfront, hrest, Option.bind_eq_bind, Option.bind_some,
    List.length_append]
  rfl

/-- A spelling is read as its number, also a padded one. -/
theorem number {digits : Bytes} {value : Nat} (h : Leb128.Spells digits value) :
    ReadsBack number digits value := by
  intro before after
  rw [Reader.number, Leb128.toOption_readUnsigned, List.drop_left]
  exact Leb128.decodeUnsigned_append after h

/-- Bytes are read back as they are, as all of them are there. -/
theorem block (body : Bytes) : ReadsBack (block body.length) body body := by
  intro before after
  have hinside : before.length + body.length ≤ (before ++ (body ++ after)).length := by
    rw [List.length_append, List.length_append]
    omega
  rw [Reader.block, if_pos hinside, Region.of_append]

/-- Bytes behind their length are read back. -/
theorem byteVector {body : Bytes} (h : body.length < 2 ^ 64) :
    ReadsBack byteVector (Vec.ofBytes body) body :=
  (number (Leb128.spells_encodeUnsigned h)).andThen (block body)

/-- Items that are read back one by one are read back one behind the other. -/
theorem run {item : Reader β} {enc : α → Bytes} {value : α → β} {xs : List α}
    (h : ∀ x ∈ xs, ReadsBack item (enc x) (value x)) :
    ReadsBack (run item xs.length) (xs.map enc).flatten (xs.map value) := by
  induction xs with
  | nil => exact done []
  | cons x xs ih =>
    obtain ⟨hx, hxs⟩ := List.forall_mem_cons.mp h
    have hrest : ReadsBack ((Reader.run item xs.length).andThen fun rest =>
        Reader.done (value x :: rest)) ((xs.map enc).flatten ++ []) (value x :: xs.map value) :=
      (ih hxs).andThen (done _)
    rw [List.append_nil] at hrest
    exact hx.andThen hrest

/-- Items behind their count are read back. -/
theorem vector {item : Reader β} {enc : α → Bytes} {value : α → β} {xs : List α}
    (hcount : xs.length < 2 ^ 64) (h : ∀ x ∈ xs, ReadsBack item (enc x) (value x)) :
    ReadsBack (vector item) (Vec.ofItems (xs.map enc)) (xs.map value) := by
  rw [Vec.ofItems, List.length_map]
  exact (number (Leb128.spells_encodeUnsigned hcount)).andThen (run h)

end ReadsBack

end Reader

/-! ## Sections -/

/-- The entries of the section at a span: behind the id a length that ends where the span does, and
    then a vector of items that takes just as many bytes. -/
def Span.entries? {α : Type} (span : Span) (item : Reader α) (data : Bytes) : Option (List α) := do
  let size ← Reader.number data (span.offset + 1)
  let start := span.offset + 1 + size.length
  let entries ← Reader.vector item data start
  if start + size.value = span.offset + span.length ∧ entries.length = size.value then
    some entries.value
  else none

/-- A written section gives back the entries in its payload. -/
theorem Span.entries?_of_encode {α : Type} {item : Reader α} {s : Section} {entries : List α}
    {before after : Bytes} {name : SectionName} (hpayload : s.payload.length < 2 ^ 64)
    (h : Reader.ReadsBack (Reader.vector item) s.payload entries) :
    Span.entries? ⟨name, before.length, s.encode.length⟩ item (before ++ (s.encode ++ after))
      = some entries := by
  generalize hdigits : Leb128.encodeUnsigned s.payload.length = digits
  have hspells : Leb128.Spells digits s.payload.length :=
    hdigits ▸ Leb128.spells_encodeUnsigned hpayload
  -- the number of the section, then the digits of its length, then the payload
  have hdata : before ++ (s.encode ++ after)
      = (before ++ [s.kind.id]) ++ (digits ++ (s.payload ++ after)) := by
    simp [Section.encode, Vec.ofBytes, hdigits]
  have hlength : s.encode.length = 1 + digits.length + s.payload.length := by
    rw [Section.length_encode, Section.encodedLength, hdigits]
  have hsize : Reader.number (before ++ (s.encode ++ after)) (before.length + 1)
      = some ⟨s.payload.length, digits.length⟩ := by
    have hread := Reader.ReadsBack.number hspells (before ++ [s.kind.id]) (s.payload ++ after)
    rwa [← hdata, List.length_append] at hread
  -- the payload starts behind the digits
  have hentries : Reader.vector item (before ++ (s.encode ++ after))
      (before.length + 1 + digits.length) = some ⟨entries, s.payload.length⟩ := by
    have hread := h (before ++ [s.kind.id] ++ digits) after
    rwa [List.append_assoc (before ++ [s.kind.id]), ← hdata, List.length_append,
      List.length_append] at hread
  have hend : before.length + 1 + digits.length + s.payload.length
      = before.length + s.encode.length := by
    omega
  simp only [Span.entries?, hsize, hentries, Option.bind_eq_bind, Option.bind_some]
  exact if_pos ⟨hend, trivial⟩

/-! ## Written modules -/

namespace Module

/-- The section of a kind gives back what its items are read as. -/
theorem entries?_write {α β : Type} {m : Module} {kind : SectionKind} {item : Reader β}
    {enc : α → Bytes} {value : α → β} {xs : List α} (h : m.write.bytes.length < 2 ^ 64)
    (hitems : m.items kind = xs.map enc) (hne : xs ≠ []) (hnil : [] ∉ xs.map enc)
    (hreads : ∀ x ∈ xs, (enc x).length < 2 ^ 64 → Reader.ReadsBack item (enc x) (value x)) :
    ∃ span, (⟨Span.layout 0 m.write.sizes.entries⟩ : SectionIndex).get? kind.name = some span ∧
      span.entries? item m.write.bytes = some (xs.map value) := by
  have hmem : ⟨kind, Vec.ofItems (xs.map enc)⟩ ∈ m.sections := by
    rw [mem_sections, hitems]
    exact Section.ofItems?_eq_some.mpr ⟨mt List.map_eq_nil_iff.mp hne, rfl⟩
  obtain ⟨before, after, hbytes, hget⟩ := exists_write_section hmem
  -- neither the payload, nor an item, nor their number is larger than the bytes are many
  have hpayload : (Vec.ofItems (xs.map enc)).length < 2 ^ 64 := by
    have hle := Section.payload_length_le ⟨kind, Vec.ofItems (xs.map enc)⟩
    have hlen := congrArg List.length hbytes
    rw [List.length_append, List.length_append] at hlen
    exact Nat.lt_of_le_of_lt hle (by omega)
  have hflatten : (xs.map enc).flatten.length < 2 ^ 64 := by
    rw [Vec.ofItems, List.length_append] at hpayload
    omega
  have hcount : xs.length < 2 ^ 64 := by
    have hle := Vec.length_le_flatten hnil
    rw [List.length_map] at hle
    omega
  have hitem : ∀ x ∈ xs, (enc x).length < 2 ^ 64 := fun x hx =>
    Nat.lt_of_le_of_lt (List.sublist_flatten_of_mem (List.mem_map_of_mem hx)).length_le hflatten
  refine ⟨_, hget, ?_⟩
  rw [hbytes]
  exact Span.entries?_of_encode hpayload
    (Reader.ReadsBack.vector hcount fun x hx => hreads x hx (hitem x hx))

/-- **Both sections about functions can be read entry by entry, and agree.**  From the id of each
    section on, a length is read that ends where the section does, then the number of functions, and
    then as many entries that end there too: in the code section the bodies of all functions, each
    behind its own length, and in the function section the indices of their types.  Both lists have
    one entry for each function, in the order of the functions. -/
theorem read_function_sections (m : Module) (h : m.write.bytes.length < 2 ^ 64)
    (hfuncs : m.funcs ≠ []) :
    ∃ index code functions, SectionIndex.parse m.write.bytes = .ok index ∧
      index.get? "code" = some code ∧ index.get? "function" = some functions ∧
      code.entries? Reader.byteVector m.write.bytes = some (m.funcs.map Func.encodeBody) ∧
      functions.entries? Reader.number m.write.bytes
        = some (m.funcs.map fun f => f.typ.toNat) := by
  -- an entry of the function section is a spelling, and so it has a byte
  have htype : ∀ f : Func, Leb128.Spells f.encodeType f.typ.toNat := fun f =>
    Leb128.spells_encodeUnsigned (Nat.lt_trans f.typ.toNat_lt (by decide))
  have hnil : [] ∉ m.funcs.map Func.encodeType := by
    rw [List.mem_map]
    rintro ⟨f, -, hempty⟩
    have hpos := (htype f).length_pos
    rw [hempty] at hpos
    exact absurd hpos (by decide)
  have hcodeItems : m.items .code = m.funcs.map Func.encodeEntry := rfl
  have htypeItems : m.items .functions = m.funcs.map Func.encodeType := rfl
  obtain ⟨code, hcode, hbodies⟩ := entries?_write h hcodeItems hfuncs
    (Func.nil_notMem_entries m.funcs) fun f _ hlength =>
      Reader.ReadsBack.byteVector (Nat.lt_of_le_of_lt f.length_encodeBody_le hlength)
  obtain ⟨functions, hfunctions, htypes⟩ := entries?_write h htypeItems hfuncs hnil
    fun f _ _ => Reader.ReadsBack.number (htype f)
  exact ⟨_, code, functions, parse_write h, hcode, hfunctions, hbodies, htypes⟩

/-- Two functions of different types, one of them with a local. -/
theorem read_function_sections_local :
    (Module.mk [{}, {}] [] [⟨1, [.i32], []⟩, ⟨0, [], [.nop]⟩] [] []).write.bytes.length < 2 ^ 64 ∧
    (Module.mk [{}, {}] [] [⟨1, [.i32], []⟩, ⟨0, [], [.nop]⟩] [] []).funcs ≠ [] ∧
    ∃ code functions : Span,
      code.entries? Reader.byteVector
        (Module.mk [{}, {}] [] [⟨1, [.i32], []⟩, ⟨0, [], [.nop]⟩] [] []).write.bytes
        = some [[0x01, 0x01, 0x7F, 0x0B], [0x00, 0x01, 0x0B]] ∧
      functions.entries? Reader.number
        (Module.mk [{}, {}] [] [⟨1, [.i32], []⟩, ⟨0, [], [.nop]⟩] [] []).write.bytes
        = some [1, 0] := by
  have hsmall : (Module.mk [{}, {}] [] [⟨1, [.i32], []⟩, ⟨0, [], [.nop]⟩] [] []).write.bytes.length
      < 2 ^ 64 := by
    decide +kernel
  have hfuncs : (Module.mk [{}, {}] [] [⟨1, [.i32], []⟩, ⟨0, [], [.nop]⟩] [] []).funcs ≠ [] :=
    List.cons_ne_nil _ _
  obtain ⟨-, code, functions, -, -, -, hbodies, htypes⟩ := read_function_sections _ hsmall hfuncs
  exact ⟨hsmall, hfuncs, code, functions, hbodies.trans (by decide +kernel), htypes⟩

end Module

end WasmBinary
