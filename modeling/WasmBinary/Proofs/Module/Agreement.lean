/-
  The writer and the walk agree.

  The writer records the size of every part as it goes; the walk finds the parts again from the
  bytes.  For every module the bytes of which can be counted in a word:

  1. a written section is a raw section, with the shortest spelling of its length, so a written
     module is a stream (`exists_raw_of_sections`);
  2. the walk therefore finds the recorded sizes, laid out from position 0 (`parse_write`);
  3. no name is recorded twice, so looking up the first entry of a name and looking up the last
     span of a name give the same length.
-/
import WasmBinary.Proofs.Module.Sections
import WasmBinary.Proofs.Section.Lookup
import WasmBinary.Proofs.Section.Stream

namespace WasmBinary

/-- The six kinds of sections have six different names. -/
theorem SectionKind.name_injective : Function.Injective SectionKind.name := by
  intro a b h
  cases a <;> cases b <;> first
    | rfl
    | exact absurd h (by decide)

/-- The number of a kind is read as the name of that kind. -/
theorem SectionName.ofId_id (kind : SectionKind) : SectionName.ofId kind.id = .known kind := by
  cases kind <;> rfl

namespace Section

/-- A written section is a raw one. -/
def raw (s : Section) (h : s.payload.length < 2 ^ 64) : RawSection :=
  ⟨s.kind.id, Leb128.encodeUnsigned s.payload.length, s.payload, Leb128.spells_encodeUnsigned h⟩

/-- What is recorded of a section. -/
def part (s : Section) : SectionName × Nat :=
  (.known s.kind, s.encode.length)

/-- As a raw section, a written one has the name and the length that are recorded of it. -/
theorem part_raw (s : Section) (h : s.payload.length < 2 ^ 64) : (s.raw h).part = s.part := by
  rw [RawSection.part, part, raw, SectionName.ofId_id]
  rfl

/-- A section is longer than its payload. -/
theorem payload_length_le (s : Section) : s.payload.length ≤ s.encode.length := by
  rw [length_encode, encodedLength]
  exact Nat.le_add_left _ _

/-- The lengths of sections add up to the length of their bytes. -/
theorem sum_length_encode (sections : List Section) :
    sumOf (sections.map fun s => s.encode.length) = (sections.flatMap encode).length := by
  induction sections with
  | nil => rfl
  | cons s sections ih =>
    rw [List.map_cons, sumOf_cons, ih, List.flatMap_cons, List.length_append]

/-- Written sections are raw sections of the same bytes, names and lengths. -/
theorem exists_raw_of_sections : ∀ {sections : List Section},
    (sections.flatMap encode).length < 2 ^ 64 →
    ∃ raw : List RawSection, raw.flatMap RawSection.bytes = sections.flatMap encode ∧
      raw.map RawSection.part = sections.map part
  | [], _ => ⟨[], rfl, rfl⟩
  | s :: sections, h => by
    rw [List.flatMap_cons, List.length_append] at h
    have hpayload : s.payload.length < 2 ^ 64 :=
      Nat.lt_of_le_of_lt (payload_length_le s) (by omega)
    have hrest : (sections.flatMap encode).length < 2 ^ 64 := by omega
    obtain ⟨raw, hbytes, hparts⟩ := exists_raw_of_sections hrest
    refine ⟨s.raw hpayload :: raw, ?_, ?_⟩
    · rw [List.flatMap_cons, List.flatMap_cons, hbytes]
      rfl
    · rw [List.map_cons, List.map_cons, part_raw, hparts]

end Section

namespace Module

/-- Recorded are the header and, in order, all sections that are written. -/
theorem entries_write (m : Module) :
    m.write.sizes.entries = (.header, Header.length) :: m.sections.map Section.part := rfl

/-- The recorded names: the header, then the kinds that the module has sections for. -/
theorem map_name_entries (m : Module) :
    m.write.sizes.entries.map (·.1) = .header :: m.kinds.map .known := by
  rw [entries_write, List.map_cons, List.map_map, ← map_kind_sections, List.map_map]
  rfl

/-- No two recorded parts are written the same. -/
theorem nodup_text_entries (m : Module) :
    (m.write.sizes.entries.map fun entry => entry.1.text).Nodup := by
  -- the recorded names are some of seven, and these are all different
  have hsub : (SectionName.header :: m.kinds.map .known).Sublist
      (.header :: SectionKind.all.map .known) :=
    (List.filter_sublist.map _).cons_cons _
  have hall : ((SectionName.header :: SectionKind.all.map .known).map SectionName.text).Nodup := by
    decide
  have htexts : m.write.sizes.entries.map (fun entry => entry.1.text)
      = (SectionName.header :: m.kinds.map .known).map SectionName.text := by
    rw [← map_name_entries, List.map_map]
    rfl
  rw [htexts]
  exact hall.sublist (hsub.map _)

/-- The recorded sizes, laid side by side, are the index of the written bytes. -/
theorem parse_write {m : Module} (h : m.write.bytes.length < 2 ^ 64) :
    SectionIndex.parse m.write.bytes = .ok ⟨Span.layout 0 m.write.sizes.entries⟩ := by
  have hlen : (m.sections.flatMap Section.encode).length ≤ m.write.bytes.length := by
    rw [write, List.length_append]
    exact Nat.le_add_left _ _
  obtain ⟨raw, hbytes, hparts⟩ := Section.exists_raw_of_sections (Nat.lt_of_le_of_lt hlen h)
  have hstream : m.write.bytes = RawSection.stream raw := by
    rw [RawSection.stream, hbytes]
    rfl
  rw [entries_write, ← hparts, hstream]
  exact SectionIndex.parse_stream raw (hstream ▸ h)

/-- The sizes add up to the number of bytes. -/
theorem total_write (m : Module) : m.write.sizes.total = m.write.bytes.length := by
  rw [SectionSizes.total, entries_write, List.map_cons, sumOf_cons, List.map_map]
  show Header.length + sumOf (m.sections.map fun s => s.encode.length) = _
  rw [Section.sum_length_encode, write, List.length_append]
  rfl

/-- No two spans of a written module are called the same. -/
theorem nodup_text_layout (m : Module) :
    ((Span.layout 0 m.write.sizes.entries).map fun span => span.name.text).Nodup := by
  rw [Span.map_layout (fun name _ => name.text)]
  exact nodup_text_entries m

/-- A section is found under its name, where the header and the sections before it end. -/
theorem get?_layout {m : Module} {before after : List Section} {s : Section}
    (h : m.sections = before ++ s :: after) :
    (⟨Span.layout 0 m.write.sizes.entries⟩ : SectionIndex).get? s.kind.name
      = some ⟨.known s.kind, (Header.bytes ++ before.flatMap Section.encode).length,
          s.encode.length⟩ := by
  have hoffset : (Header.bytes ++ before.flatMap Section.encode).length
      = 0 + Header.length + sumOf ((before.map Section.part).map (·.2)) := by
    rw [List.length_append, ← Section.sum_length_encode, List.map_map, Nat.zero_add]
    rfl
  have hmem : (⟨.known s.kind, (Header.bytes ++ before.flatMap Section.encode).length,
      s.encode.length⟩ : Span) ∈ Span.layout 0 m.write.sizes.entries := by
    rw [entries_write, h, List.map_append, List.map_cons, Span.layout, Span.layout_append, hoffset]
    exact List.mem_cons_of_mem _ (List.mem_append_right _ List.mem_cons_self)
  exact SectionIndex.get?_of_mem m.nodup_text_layout hmem

/-- A section stands in the written bytes where the span under its name says. -/
theorem exists_write_section {m : Module} {s : Section} (h : s ∈ m.sections) :
    ∃ before after, m.write.bytes = before ++ (s.encode ++ after) ∧
      (⟨Span.layout 0 m.write.sizes.entries⟩ : SectionIndex).get? s.kind.name
        = some ⟨.known s.kind, before.length, s.encode.length⟩ := by
  obtain ⟨before, after, hsections⟩ := List.append_of_mem h
  refine ⟨Header.bytes ++ before.flatMap Section.encode, after.flatMap Section.encode, ?_,
    get?_layout hsections⟩
  rw [write, hsections, List.flatMap_append, List.flatMap_cons, List.append_assoc]

/-- A kind under whose name there is a span is one that the module has a section for. -/
theorem mem_kinds_of_get? {m : Module} {kind : SectionKind} {span : Span}
    (h : (⟨Span.layout 0 m.write.sizes.entries⟩ : SectionIndex).get? kind.name = some span) :
    kind ∈ m.kinds := by
  obtain ⟨hmem, htext⟩ := SectionIndex.mem_of_get? h
  have hname : span.name ∈ SectionName.header :: m.kinds.map .known := by
    rw [← map_name_entries, ← Span.map_layout (fun name _ => name) 0]
    exact List.mem_map.mpr ⟨span, hmem, rfl⟩
  rcases List.mem_cons.mp hname with hheader | hknown
  · rw [hheader] at htext
    cases kind <;> exact absurd htext (by decide)
  · obtain ⟨found, hfound, hname⟩ := List.mem_map.mp hknown
    rw [← hname] at htext
    rwa [← SectionKind.name_injective htext]

/-- **Every module is found again as it was recorded.**  Header and sections, in order, with their
    lengths; from whichever side a name is looked up. -/
theorem parse_write_agrees (m : Module) (h : m.write.bytes.length < 2 ^ 64) :
    ∃ index, SectionIndex.parse m.write.bytes = .ok index ∧
      index.spans.map (fun span => (span.name.text, span.length))
        = m.write.sizes.entries.map (fun entry => (entry.1.text, entry.2)) ∧
      (∀ before span after, index.spans = before ++ span :: after →
        span.offset = sumOf (before.map (·.length))) ∧
      index.total = m.write.sizes.total ∧ m.write.sizes.total = m.write.bytes.length ∧
      (∃ parts, index.spans = ⟨.header, 0, 8⟩ :: parts ∧
        parts.map (·.name) = m.kinds.map .known) ∧
      (m.kinds.Pairwise fun a b => a.id < b.id) ∧
      (∀ s ∈ m.sections, s.encodedLength = s.encode.length) ∧
      ∀ text, m.write.sizes.get? text = (index.get? text).map (·.length) := by
  have hparse := parse_write h
  refine ⟨_, hparse, Span.map_layout (fun name length => (name.text, length)) 0 _, ?_, ?_,
    total_write m, ⟨Span.layout 8 (m.sections.map Section.part), rfl, ?_⟩, m.kinds_increasing,
    fun s _ => s.length_encode.symm, ?_⟩
  · intro before span after hspans
    have htiles := Span.tiles_layout 0 m.write.sizes.entries
    rw [show Span.layout 0 m.write.sizes.entries = before ++ span :: after from hspans] at htiles
    rw [htiles.offset_eq, Nat.zero_add]
  · rw [SectionIndex.total_of_parse hparse, total_write]
  · rw [Span.map_layout (fun name _ => name), List.map_map, ← map_kind_sections, List.map_map]
    rfl
  · intro text
    -- the record answers with its first entry, the index with its last span
    have hnodup : ((Span.layout 0 m.write.sizes.entries).map fun span => span.name.text).Nodup := by
      rw [Span.map_layout (fun name _ => name.text)]
      exact nodup_text_entries m
    rw [SectionSizes.get?, ← Span.find?_layout 0]
    exact congrArg (Option.map (·.length))
      (find?_reverse_of_nodup (fun span => SectionName.designatedBy_iff) hnodup).symm

/-- A module of one type and one memory: two sections behind the header. -/
theorem parse_write_type_and_memory :
    (Module.mk [{}] [] [] [⟨1, none⟩] []).write.bytes.length < 2 ^ 64 ∧
    ∃ index, SectionIndex.parse (Module.mk [{}] [] [] [⟨1, none⟩] []).write.bytes = .ok index ∧
      index.spans.map (fun span => (span.name.text, span.length))
        = [("header", 8), ("type", 6), ("memory", 5)] := by
  have hsmall : (Module.mk [{}] [] [] [⟨1, none⟩] []).write.bytes.length < 2 ^ 64 := by
    decide +kernel
  obtain ⟨index, hparse, hspans, -⟩ := parse_write_agrees _ hsmall
  exact ⟨hsmall, index, hparse, hspans.trans (by decide +kernel)⟩

end Module

end WasmBinary
