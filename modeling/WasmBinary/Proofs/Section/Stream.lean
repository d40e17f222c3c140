/-
  The grammar of section streams, and the walk as its reader.

  A RAW SECTION is an id, any spelling of a length, and that many bytes; the spelling may be
  padded, and the id need not be a known one.  A STREAM is the header and a list of raw sections.

  1. **Sound** — where a walk comes to the end, what it walked over is a list of raw sections
     (`exists_raw_of_stop`).

  2. **Complete** — a walk steps over a raw section whatever follows it (`fromPos_raw`), so it
     comes to the end of any stream, and its spans are the sections laid side by side
     (`fromPos_raws`).

  3. **Unique** — a spelling ends where it ends, and tells how many bytes belong to the section.
     So raw sections are prefix-free and a byte string is a stream in one way at most.

  A declared length is cut off at the largest word.  Inputs that are shorter than that cannot
  hold a section whose length was cut off, which is all that the bound on the input is for.
-/
import WasmBinary.Proofs.Section.Walk

namespace WasmBinary

/-- A section as it stands in the bytes.  The length is there as it was spelled, with a proof that
    it spells how long the payload is, so that there is no raw section of a wrong length. -/
structure RawSection where
  id : UInt8
  size : Bytes
  payload : Bytes
  size_spells : Leb128.Spells size payload.length

namespace RawSection

/-- The id, the spelling of the length, the payload. -/
def bytes (s : RawSection) : Bytes :=
  s.id :: (s.size ++ s.payload)

/-- What a section is called and how many bytes it takes. -/
def part (s : RawSection) : SectionName × Nat :=
  (.ofId s.id, s.bytes.length)

/-- The header, then the sections. -/
def stream (raw : List RawSection) : Bytes :=
  Header.magic ++ Header.version ++ raw.flatMap bytes

/-- A raw section takes a byte for its id, the bytes that spell its length and those of its
    payload. -/
theorem length_bytes (s : RawSection) :
    s.bytes.length = 1 + s.size.length + s.payload.length := by
  rw [bytes, List.length_cons, List.length_append]
  omega

theorem bytes_ne_nil (s : RawSection) : s.bytes ≠ [] :=
  List.cons_ne_nil _ _

/-- A raw section tells where it ends: its length may be spelled in several ways, but each spelling
    ends where it ends and says how much follows. -/
theorem bytes_prefixFree : PrefixFree bytes := by
  rintro ⟨id, size, payload, hsize⟩ ⟨id', size', payload', hsize'⟩ s t h
  simp only [bytes, List.cons_append, List.append_assoc] at h
  obtain ⟨rfl, h'⟩ := List.cons.inj h
  -- equal spellings give equal lengths, and those split the payloads off
  obtain ⟨rfl, hlen, h''⟩ := hsize.unique hsize' h'
  obtain ⟨rfl, hst⟩ := List.append_inj h'' hlen
  exact ⟨rfl, hst⟩

/-- A byte string is a stream in at most one way. -/
theorem stream_injective : Function.Injective stream := by
  intro raw raw' h
  exact bytes_prefixFree.flatMap_injective bytes_ne_nil (List.append_cancel_left h)

/-- A length that was read, with so many bytes behind it, makes a raw section.  Its payload is what
    stands behind the digits, and what follows the section is left over. -/
theorem exists_of_read (id : UInt8) {rest : Bytes} {size : Leb128.Reading Nat}
    (hread : Leb128.decodeUnsigned rest = .ok size)
    (hfits : size.value + (1 + size.length) ≤ (id :: rest).length) :
    ∃ s : RawSection, ∃ tail, s.id = id ∧ id :: rest = s.bytes ++ tail ∧
      s.bytes.length = size.value + (1 + size.length) := by
  -- a length that was read was spelled in front of what follows
  obtain ⟨digits, behind, rfl, hlen, hspells⟩ := Leb128.decodeUnsigned_eq_ok_iff.mp hread
  have hpayload : (behind.take size.value).length = size.value := by
    rw [List.length_take]
    simp only [List.length_cons, List.length_append] at hfits
    omega
  refine ⟨⟨id, digits, behind.take size.value, by rwa [hpayload]⟩, behind.drop size.value, rfl,
    ?_, ?_⟩
  · rw [bytes, List.cons_append, List.append_assoc, List.take_append_drop]
  · rw [length_bytes]
    show 1 + digits.length + (behind.take size.value).length = _
    omega

end RawSection

namespace Walk

/-- A length that is told in full. -/
theorem declared_of_le {size : Leb128.Reading Nat}
    (h : size.value + (1 + size.length) ≤ Span.largest) :
    declared size = size.value + (1 + size.length) :=
  Nat.min_eq_left h

/-- A length below the largest word was not cut off. -/
theorem declared_of_lt {size : Leb128.Reading Nat} (h : declared size < Span.largest) :
    declared size = size.value + (1 + size.length) := by
  unfold declared at h ⊢
  omega

/-- The walk steps over a raw section, whatever stands before it and behind it. -/
theorem fromPos_raw {before after : Bytes} (s : RawSection)
    (h : (before ++ (s.bytes ++ after)).length < UInt64.size) :
    fromPos (before ++ (s.bytes ++ after)) before.length
      = cons ⟨.ofId s.id, before.length, s.bytes.length⟩
          (fromPos (before ++ (s.bytes ++ after)) (before.length + s.bytes.length)) := by
  generalize hdata : before ++ (s.bytes ++ after) = data at h
  have hlen : data.length = before.length + (s.bytes.length + after.length) := by
    rw [← hdata, List.length_append, List.length_append]
  have hbytes := s.length_bytes
  have hdrop : data.drop before.length = s.id :: (s.size ++ (s.payload ++ after)) := by
    rw [← hdata, List.drop_left, RawSection.bytes, List.cons_append, List.append_assoc]
  have hpos : before.length < data.length := by omega
  -- what is read there: the id, then the spelling of the length
  rw [List.drop_eq_getElem_cons hpos] at hdrop
  obtain ⟨hid, hrest⟩ := List.cons.inj hdrop
  have hread : Leb128.decodeUnsigned (data.drop (before.length + 1))
      = .ok ⟨s.payload.length, s.size.length⟩ := by
    rw [hrest]
    exact Leb128.decodeUnsigned_append _ s.size_spells
  -- a section inside so short an input is not cut off
  have hdeclared : declared ⟨s.payload.length, s.size.length⟩ = s.bytes.length := by
    have hle : s.payload.length + (1 + s.size.length) ≤ Span.largest := by
      simp only [Span.largest, UInt64.size] at h ⊢
      omega
    rw [declared_of_le hle, hbytes]
    show s.payload.length + (1 + s.size.length) = _
    omega
  rw [fromPos_step hpos hread (by omega), hdeclared, hid]

/-- The walk comes to the end of a list of raw sections, and finds them side by side. -/
theorem fromPos_raws (raw : List RawSection) (before : Bytes)
    (h : (before ++ raw.flatMap RawSection.bytes).length < UInt64.size) :
    fromPos (before ++ raw.flatMap RawSection.bytes) before.length
      = ⟨Span.layout before.length (raw.map RawSection.part), none⟩ := by
  induction raw generalizing before with
  | nil =>
    rw [List.flatMap_nil, List.append_nil, fromPos_end (Nat.le_refl _)]
    rfl
  | cons s raw ih =>
    rw [List.flatMap_cons] at h ⊢
    have hnext := ih (before ++ s.bytes) (by rwa [List.append_assoc])
    rw [List.append_assoc, List.length_append] at hnext
    rw [fromPos_raw s h, hnext]
    rfl

/-- A walk that came to the end has walked over raw sections. -/
theorem exists_raw_of_stop {data : Bytes} (h : data.length < Span.largest) (pos : Nat) :
    (fromPos data pos).stop = none →
      ∃ raw : List RawSection, data.drop pos = raw.flatMap RawSection.bytes := by
  refine fromPos_induct (motive := fun pos walk => walk.stop = none →
    ∃ raw : List RawSection, data.drop pos = raw.flatMap RawSection.bytes) ?_ ?_ ?_ ?_ pos
  · intro pos hend _
    exact ⟨[], List.drop_eq_nil_of_le hend⟩
  · intro pos fault _ _ hstop
    nomatch hstop
  · intro pos size _ _ _ hstop
    nomatch hstop
  · intro pos size after hlt hread hfits ih hstop
    obtain ⟨raw, hraw⟩ := ih hstop
    have hdeclared : declared size = size.value + (1 + size.length) :=
      declared_of_lt (by omega)
    have hcons : data.drop pos = data[pos] :: data.drop (pos + 1) := List.drop_eq_getElem_cons hlt
    have hlen : (data[pos] :: data.drop (pos + 1)).length = data.length - pos := by
      rw [← hcons, List.length_drop]
    obtain ⟨s, tail, -, hbytes, hslen⟩ := RawSection.exists_of_read data[pos] hread (by omega)
    refine ⟨s :: raw, ?_⟩
    -- the walk went on exactly where the raw section ends
    have htail : data.drop (pos + declared size) = tail := by
      rw [← List.drop_drop, hcons, hbytes, hdeclared, ← hslen, List.drop_left]
    rw [List.flatMap_cons, ← hraw, htail, hcons, hbytes]

end Walk

/-! ## Indexing a stream -/

namespace SectionIndex

/-- The index that a stream has: the header and its sections side by side. -/
def ofRaw (raw : List RawSection) : SectionIndex :=
  ⟨Span.layout 0 ((.header, Header.length) :: raw.map RawSection.part)⟩

/-- Every stream that is not longer than a word can tell has an index, and it lists the sections of
    the stream. -/
theorem parse_stream (raw : List RawSection) (h : (RawSection.stream raw).length < UInt64.size) :
    parse (RawSection.stream raw) = .ok (ofRaw raw) := by
  have hwalk := Walk.fromPos_raws raw Header.bytes h
  rw [parse_eq_ok_iff]
  refine ⟨⟨raw.flatMap RawSection.bytes, rfl⟩, congrArg Walk.stop hwalk, ?_⟩
  exact congrArg (fun walk : Walk => (⟨Span.header :: walk.spans⟩ : SectionIndex)) hwalk.symm

/-- What has an index is a stream, as long as no length was cut off: a length of the largest word
    could stand for any that is larger. -/
theorem exists_stream_of_parse {data : Bytes} {index : SectionIndex}
    (h : data.length < Span.largest) (hparse : parse data = .ok index) :
    ∃ raw, data = RawSection.stream raw := by
  obtain ⟨⟨rest, hrest⟩, hstop, -⟩ := parse_eq_ok_iff.mp hparse
  obtain ⟨raw, hraw⟩ := Walk.exists_raw_of_stop h Header.length hstop
  refine ⟨raw, ?_⟩
  rw [RawSection.stream, ← hraw, hrest, Header.length, List.drop_left, Header.bytes]

/-- **An index is found exactly where there is a stream.**  The bytes are then a stream in one way,
    and the index lists the header and the sections of that stream, side by side over the whole
    input.  On any input the walk stays inside: it reads ids where spans start, and one more where
    an error stops it, and each turn gets ahead. -/
theorem parse_iff_stream (data : Bytes) (h : data.length < 2 ^ 63) :
    (∀ index, parse data = .ok index ↔ ∃ raw, data = RawSection.stream raw ∧
      index.spans = Span.layout 0 ((.header, 8) :: raw.map RawSection.part)) ∧
    (∀ raw, data = RawSection.stream raw →
      (∀ s ∈ raw, 1 ≤ s.size.length ∧ s.size.length ≤ 10) ∧
      ∀ raw', data = RawSection.stream raw' → raw = raw') ∧
    (∀ index, parse data = .ok index → Tiles 0 index.spans data.length ∧
      (index.spans.Pairwise fun a b => a.offset + a.length ≤ b.offset) ∧
      index.total = data.length) ∧
    (∀ rest, data = Header.bytes ++ rest →
      ∃ stop, Tiles 8 (Walk.ofModule data).spans stop ∧ stop ≤ data.length ∧
        ((Walk.ofModule data).stop = none ↔ stop = data.length)) ∧
    (∀ span ∈ (Walk.ofModule data).spans, 2 ≤ span.length ∧
      span.offset + span.length ≤ data.length ∧
      ∃ id, data[span.offset]? = some id ∧ span.name = .ofId id) := by
  refine ⟨fun index => ⟨fun hparse => ?_, ?_⟩, ?_, fun index hparse => ?_, ?_, ?_⟩
  · -- half the largest word leaves room for an id and the digits of a length
    have hlarge : data.length < Span.largest := by
      simp only [Span.largest, UInt64.size]
      omega
    obtain ⟨raw, rfl⟩ := exists_stream_of_parse hlarge hparse
    rw [parse_stream raw (by simp only [UInt64.size]; omega)] at hparse
    exact ⟨raw, rfl, congrArg spans (Except.ok.inj hparse).symm⟩
  · rintro ⟨raw, rfl, hspans⟩
    rw [parse_stream raw (by simp only [UInt64.size]; omega)]
    exact congrArg (fun spans => Except.ok (⟨spans⟩ : SectionIndex)) hspans.symm
  · rintro raw rfl
    refine ⟨fun s _ => ⟨s.size_spells.length_pos, s.size_spells.length_le⟩, fun raw' hraw => ?_⟩
    exact RawSection.stream_injective hraw
  · have htiles := tiles_of_parse hparse
    exact ⟨htiles, htiles.disjoint, total_of_parse hparse⟩
  · rintro rest rfl
    rw [Walk.ofModule_append]
    exact Walk.fromPos_tiles Header.length (length_le_of_header rfl)
  · exact Walk.ofModule_reads data

/-- A section of an unknown id, the length of which is spelled with a byte too many. -/
theorem parse_padded_length :
    (Header.bytes ++ [0x00, 0x81, 0x00, 0x2A]).length < 2 ^ 63 ∧
    parse (Header.bytes ++ [0x00, 0x81, 0x00, 0x2A])
      = .ok ⟨[⟨.header, 0, 8⟩, ⟨.unknown 0, 8, 4⟩]⟩ := by
  have hsmall : (Header.bytes ++ [0x00, 0x81, 0x00, 0x2A]).length < 2 ^ 63 := by decide
  refine ⟨hsmall, ((parse_iff_stream _ hsmall).1 _).mpr ?_⟩
  exact ⟨[⟨0x00, [0x81, 0x00], [0x2A], rfl⟩], rfl, rfl⟩

end SectionIndex

end WasmBinary
