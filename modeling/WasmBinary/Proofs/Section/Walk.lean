/-
  The walk over a module, seen from positions of the whole byte string.

  `Walk.sections` is handed what is left of the input.  `Walk.fromPos` is the same walk told by
  the position it has reached, so that what it finds can be compared with the bytes at that
  position.

  1. **One turn** — at the end of the input the walk is over; otherwise it stops at a length it
     cannot read, stops at a length that is more than what is left, or steps over a section.
     `fromPos_induct` packs the four cases into one induction, and nothing below unfolds the walk
     again.

  2. **A whole walk** — the spans tile the input from where the walk starts to where it stops, and
     the walk stops without an error exactly at the end (`fromPos_tiles`).  Every turn reads its id
     at a position inside the input and gets ahead by at least two bytes (`fromPos_reads`).

  3. **The header** — an index is the span of the header in front of a walk that came to the end
     (`parse_eq_ok_iff`), so its spans tile the whole input.
-/
import WasmBinary.Proofs.Leb128.Reading
import WasmBinary.Proofs.Section.Layout

namespace WasmBinary

namespace Walk

/-- The walk from a position of the input to where it stops. -/
def fromPos (data : Bytes) (pos : Nat) : Walk :=
  sections pos (data.length - pos) (data.drop pos)

/-- The length of a section with everything that belongs to it, as far as it can be told. -/
def declared (size : Leb128.Reading Nat) : Nat :=
  min (size.value + (1 + size.length)) Span.largest

/-- A section that was stepped over, in front of what was found behind it. -/
def cons (span : Span) (after : Walk) : Walk :=
  ⟨span :: after.spans, after.stop⟩

/-! ## One turn -/

/-- At the end of the input the walk is over, and nothing stopped it. -/
theorem fromPos_end {data : Bytes} {pos : Nat} (h : data.length ≤ pos) :
    fromPos data pos = ⟨[], none⟩ := by
  rw [fromPos, List.drop_eq_nil_of_le h, sections]

/-- A length that cannot be read stops the walk, with the position behind the id. -/
theorem fromPos_fault {data : Bytes} {pos : Nat} {fault : Leb128.Fault} (h : pos < data.length)
    (hread : Leb128.decodeUnsigned (data.drop (pos + 1)) = .error fault) :
    fromPos data pos = ⟨[], some (.number (pos + 1) fault)⟩ := by
  rw [fromPos, List.drop_eq_getElem_cons h, sections]
  simp only [hread]

/-- A length that is more than what is left stops the walk, with the position of the id, what is
    declared and what there is. -/
theorem fromPos_short {data : Bytes} {pos : Nat} {size : Leb128.Reading Nat}
    (h : pos < data.length) (hread : Leb128.decodeUnsigned (data.drop (pos + 1)) = .ok size)
    (hshort : data.length - pos < declared size) :
    fromPos data pos
      = ⟨[], some (.truncatedSection pos (declared size) (data.length - pos))⟩ := by
  rw [fromPos, List.drop_eq_getElem_cons h, sections]
  simp only [hread]
  exact if_pos hshort

/-- A length that is not more than what is left is stepped over, and the walk goes on behind the
    section as it would have started there. -/
theorem fromPos_step {data : Bytes} {pos : Nat} {size : Leb128.Reading Nat}
    (h : pos < data.length) (hread : Leb128.decodeUnsigned (data.drop (pos + 1)) = .ok size)
    (hfits : declared size ≤ data.length - pos) :
    fromPos data pos
      = cons ⟨.ofId data[pos], pos, declared size⟩ (fromPos data (pos + declared size)) := by
  have hrest : (data[pos] :: data.drop (pos + 1)).drop (declared size)
      = data.drop (pos + declared size) := by
    rw [← List.drop_eq_getElem_cons h, List.drop_drop]
  have havail : data.length - pos - declared size = data.length - (pos + declared size) := by
    omega
  rw [fromPos, List.drop_eq_getElem_cons h, sections]
  simp only [hread]
  refine (if_neg (Nat.not_lt.mpr hfits)).trans ?_
  -- the walk goes on behind the section, with as many bytes as are there
  show cons _ (sections (pos + declared size) (data.length - pos - declared size)
    ((data[pos] :: data.drop (pos + 1)).drop (declared size))) = _
  rw [hrest, havail]
  rfl

/-- A section declares two bytes at least, its id and a digit.  So every step gets ahead, even where
    the payload is empty. -/
theorem two_le_declared {data : Bytes} {size : Leb128.Reading Nat}
    (hread : Leb128.decodeUnsigned data = .ok size) : 2 ≤ declared size := by
  have := Leb128.one_le_length_of_decodeUnsigned hread
  simp only [declared, Span.largest, UInt64.size]
  omega

/-- What holds of a walk that is over, of one that stops, and is kept when a section is stepped
    over, holds of every walk.  The induction is on what is left of the input, which every step
    makes shorter. -/
theorem fromPos_induct {data : Bytes} {motive : Nat → Walk → Prop}
    (ended : ∀ pos, data.length ≤ pos → motive pos ⟨[], none⟩)
    (fault : ∀ pos fault, pos < data.length →
      Leb128.decodeUnsigned (data.drop (pos + 1)) = .error fault →
      motive pos ⟨[], some (.number (pos + 1) fault)⟩)
    (short : ∀ pos size, pos < data.length →
      Leb128.decodeUnsigned (data.drop (pos + 1)) = .ok size →
      data.length - pos < declared size →
      motive pos ⟨[], some (.truncatedSection pos (declared size) (data.length - pos))⟩)
    (step : ∀ pos size after, (h : pos < data.length) →
      Leb128.decodeUnsigned (data.drop (pos + 1)) = .ok size →
      declared size ≤ data.length - pos → motive (pos + declared size) after →
      motive pos (cons ⟨.ofId data[pos], pos, declared size⟩ after))
    (pos : Nat) : motive pos (fromPos data pos) := by
  induction hleft : data.length - pos using Nat.strongRecOn generalizing pos with
  | ind left ih =>
    rcases Nat.lt_or_ge pos data.length with h | h
    · cases hread : Leb128.decodeUnsigned (data.drop (pos + 1)) with
      | error f =>
        rw [fromPos_fault h hread]
        exact fault pos f h hread
      | ok size =>
        rcases Nat.lt_or_ge (data.length - pos) (declared size) with hshort | hfits
        · rw [fromPos_short h hread hshort]
          exact short pos size h hread hshort
        · have := two_le_declared hread
          rw [fromPos_step h hread hfits]
          exact step pos size _ h hread hfits (ih _ (by omega) _ rfl)
    · rw [fromPos_end h]
      exact ended pos h

/-! ## A whole walk -/

/-- The spans lie side by side up to a position inside the input, which is its end exactly when
    nothing stopped the walk. -/
theorem fromPos_tiles {data : Bytes} (pos : Nat) (h : pos ≤ data.length) :
    ∃ stop, Tiles pos (fromPos data pos).spans stop ∧ stop ≤ data.length ∧
      ((fromPos data pos).stop = none ↔ stop = data.length) := by
  revert h
  refine fromPos_induct (motive := fun pos walk => pos ≤ data.length →
    ∃ stop, Tiles pos walk.spans stop ∧ stop ≤ data.length ∧
      (walk.stop = none ↔ stop = data.length)) ?_ ?_ ?_ ?_ pos
  · intro pos hend h
    exact ⟨pos, rfl, h, by simp; omega⟩
  · intro pos fault hlt _ h
    exact ⟨pos, rfl, h, by simp; omega⟩
  · intro pos size hlt _ _ h
    exact ⟨pos, rfl, h, by simp; omega⟩
  · intro pos size after hlt _ hfits ih _
    obtain ⟨stop, htiles, hle, hstop⟩ := ih (by omega)
    exact ⟨stop, ⟨rfl, htiles⟩, hle, hstop⟩

/-- Every turn reads its id inside the input, names the span after it, and gets ahead.  The two
    bytes are the id and the digits of the length. -/
theorem fromPos_reads {data : Bytes} (pos : Nat) :
    ∀ span ∈ (fromPos data pos).spans, 2 ≤ span.length ∧
      span.offset + span.length ≤ data.length ∧
      ∃ id, data[span.offset]? = some id ∧ span.name = .ofId id := by
  refine fromPos_induct (motive := fun _ walk => ∀ span ∈ walk.spans, 2 ≤ span.length ∧
    span.offset + span.length ≤ data.length ∧
    ∃ id, data[span.offset]? = some id ∧ span.name = .ofId id) ?_ ?_ ?_ ?_ pos
  · intro pos _ span hmem
    exact absurd hmem List.not_mem_nil
  · intro pos fault _ _ span hmem
    exact absurd hmem List.not_mem_nil
  · intro pos size _ _ _ span hmem
    exact absurd hmem List.not_mem_nil
  · intro pos size after hlt hread hfits ih span hmem
    rcases List.mem_cons.mp hmem with rfl | hmem
    · refine ⟨two_le_declared hread, ?_, data[pos], List.getElem?_eq_getElem hlt, rfl⟩
      show pos + declared size ≤ data.length
      omega
    · exact ih span hmem

/-! ## The header -/

/-- Behind a header the walk over a module is the walk from position 8. -/
theorem ofModule_append (rest : Bytes) :
    ofModule (Header.bytes ++ rest) = fromPos (Header.bytes ++ rest) Header.length := by
  simp [ofModule, fromPos, Header.bytes, Header.length, Header.magic, Header.version]

/-- Without a header there is no walk, and what stands in its place is told: the magic number is
    looked at first, and the version only behind it. -/
theorem ofModule_cases (data : Bytes) :
    (data.take 4 ≠ Header.magic ∧ ofModule data = ⟨[], some (.badMagic (data.take 4))⟩) ∨
    (data.take 4 = Header.magic ∧ (data.drop 4).take 4 ≠ Header.version ∧
      ofModule data = ⟨[], some (.badVersion ((data.drop 4).take 4))⟩) ∨
    ∃ rest, data = Header.bytes ++ rest := by
  by_cases hmagic : data.take 4 = Header.magic
  · by_cases hversion : (data.drop 4).take 4 = Header.version
    · refine Or.inr (Or.inr ⟨(data.drop 4).drop 4, ?_⟩)
      rw [Header.bytes, List.append_assoc, ← hversion, List.take_append_drop, ← hmagic,
        List.take_append_drop]
    · refine Or.inr (Or.inl ⟨hmagic, hversion, ?_⟩)
      exact (if_neg (not_not_intro hmagic)).trans (if_pos hversion)
  · exact Or.inl ⟨hmagic, if_pos hmagic⟩

/-- Whatever the bytes are, the walk over them reads inside them and gets ahead. -/
theorem ofModule_reads (data : Bytes) :
    ∀ span ∈ (ofModule data).spans, 2 ≤ span.length ∧
      span.offset + span.length ≤ data.length ∧
      ∃ id, data[span.offset]? = some id ∧ span.name = .ofId id := by
  rcases ofModule_cases data with ⟨-, hbad⟩ | ⟨-, -, hbad⟩ | ⟨rest, rfl⟩
  · rw [hbad]
    intro span hmem
    exact absurd hmem List.not_mem_nil
  · rw [hbad]
    intro span hmem
    exact absurd hmem List.not_mem_nil
  · rw [ofModule_append]
    exact fromPos_reads Header.length

end Walk

/-! ## The index of a module -/

namespace SectionIndex

/-- Behind a header the index is made from the walk from position 8: of its spans where nothing
    stopped it, and otherwise of what did. -/
theorem parse_append (rest : Bytes) :
    parse (Header.bytes ++ rest) =
      match (Walk.fromPos (Header.bytes ++ rest) Header.length).stop with
      | none =>
        .ok ⟨Span.header :: (Walk.fromPos (Header.bytes ++ rest) Header.length).spans⟩
      | some e => .error e := by
  unfold parse
  exact Walk.ofModule_append rest ▸ rfl

/-- An index is the header and a walk that came to the end of what is behind it. -/
theorem parse_eq_ok_iff {data : Bytes} {index : SectionIndex} :
    parse data = .ok index ↔
      (∃ rest, data = Header.bytes ++ rest) ∧ (Walk.fromPos data Header.length).stop = none ∧
        index = ⟨Span.header :: (Walk.fromPos data Header.length).spans⟩ := by
  constructor
  · intro h
    -- bytes without a header have no index
    rcases Walk.ofModule_cases data with ⟨-, hbad⟩ | ⟨-, -, hbad⟩ | ⟨rest, rfl⟩
    · rw [parse, hbad] at h
      nomatch h
    · rw [parse, hbad] at h
      nomatch h
    · rw [parse_append] at h
      cases hstop : (Walk.fromPos (Header.bytes ++ rest) Header.length).stop with
      | none =>
        rw [hstop] at h
        exact ⟨⟨rest, rfl⟩, rfl, (Except.ok.inj h).symm⟩
      | some e =>
        rw [hstop] at h
        nomatch h
  · rintro ⟨⟨rest, rfl⟩, hstop, rfl⟩
    rw [parse_append, hstop]

/-- Bytes that start with a header are as long as one. -/
theorem length_le_of_header {data rest : Bytes} (h : data = Header.bytes ++ rest) :
    Header.length ≤ data.length := by
  rw [h, List.length_append]
  exact Nat.le_add_right _ _

/-- The spans of an index lie side by side from the first byte to the last. -/
theorem tiles_of_parse {data : Bytes} {index : SectionIndex} (h : parse data = .ok index) :
    Tiles 0 index.spans data.length := by
  obtain ⟨⟨rest, hrest⟩, hstop, rfl⟩ := parse_eq_ok_iff.mp h
  obtain ⟨stop, htiles, -, hend⟩ :=
    Walk.fromPos_tiles Header.length (length_le_of_header hrest)
  obtain rfl : stop = data.length := hend.mp hstop
  exact ⟨rfl, htiles⟩

/-- Every span of an index has at least two bytes. -/
theorem two_le_length_of_parse {data : Bytes} {index : SectionIndex}
    (h : parse data = .ok index) : ∀ span ∈ index.spans, 2 ≤ span.length := by
  obtain ⟨-, -, rfl⟩ := parse_eq_ok_iff.mp h
  intro span hmem
  rcases List.mem_cons.mp hmem with rfl | hmem
  · decide
  · exact (Walk.fromPos_reads Header.length span hmem).1

/-- The lengths of an index add up to the length of the bytes, the header and all unknown sections
    counted. -/
theorem total_of_parse {data : Bytes} {index : SectionIndex} (h : parse data = .ok index) :
    index.total = data.length := by
  have := (tiles_of_parse h).stop_eq
  rw [total]
  omega

end SectionIndex

end WasmBinary
