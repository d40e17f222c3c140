/-
  The first body lies in the payload of the code section.

  1. **Words** — positions and lengths are 64-bit words.  `firstBodyInWords` is the way to the first
     body with every sum, every difference and every position checked.  No check ever fails, for
     whatever bytes the index was made (`firstBodyInWords_eq`): a number that was read ends inside
     the section, so the next one starts inside it, and the section itself ends in a word.

  2. **Inside** — what is found lies in the last section that is called `code`, behind the id and
     three numbers (`firstBody?_inside`).

  3. **The payload** — is what stands in a section behind its id and its length (`Span.payload?`).
     Where the index is that of the bytes, every section has one.  The first body is then told by
     the payload of the code section alone: it spells how many bodies there are and how long the
     first one is, and holds that many bytes behind it (`firstBody?_eq_some_iff_payload`).  A number
     that ends behind the payload is not one of the payload (`firstBody?_of_leaving`).
-/
import WasmBinary.Proofs.Section.Lookup
import WasmBinary.Proofs.Section.Steps
import WasmBinary.Proofs.Section.Stream

namespace WasmBinary

/-! ## Words -/

/-- What ends a computation with words. -/
inductive Trap
  /-- A sum needs more bits than a word has. -/
  | overflow
  /-- A difference is below zero. -/
  | underflow
  /-- A position is behind the end of the bytes. -/
  | outside
deriving DecidableEq, Repr

namespace Checked

/-- The sum of two words. -/
def add (a b : Nat) : Except Trap Nat :=
  if a + b < UInt64.size then .ok (a + b) else .error .overflow

/-- The difference of two words. -/
def sub (a b : Nat) : Except Trap Nat :=
  if b ≤ a then .ok (a - b) else .error .underflow

/-- The number at a position, which must not be behind the end. -/
def read (data : Bytes) (pos : Nat) : Except Trap (Option (Leb128.Reading Nat)) :=
  if pos ≤ data.length then .ok (Leb128.readUnsigned data pos).toOption else .error .outside

theorem add_of_lt {a b : Nat} (h : a + b < UInt64.size) : add a b = .ok (a + b) :=
  if_pos h

theorem sub_of_le {a b : Nat} (h : b ≤ a) : sub a b = .ok (a - b) :=
  if_pos h

theorem read_of_le {data : Bytes} {pos : Nat} (h : pos ≤ data.length) :
    read data pos = .ok (Leb128.readUnsigned data pos).toOption :=
  if_pos h

/-- A number that is read at a position inside the bytes ends at one, so the step over it is
    checked with success too. -/
theorem add_of_read {data : Bytes} {pos : Nat} {r : Leb128.Reading Nat}
    (hdata : data.length < UInt64.size) (hread : (Leb128.readUnsigned data pos).toOption = some r) :
    pos + r.length ≤ data.length ∧ add pos r.length = .ok (pos + r.length) := by
  have hend : pos + r.length ≤ data.length :=
    Leb128.end_le_of_read (Leb128.toOption_readUnsigned.mp hread)
  exact ⟨hend, add_of_lt (by omega)⟩

end Checked

namespace SectionIndex

/-- The way to the first body, step by step, with everything checked that could leave the words or
    the bytes. -/
def firstBodyInWords (index : SectionIndex) (data : Bytes) : Except Trap (Option Region) := do
  let some code := index.get? SectionKind.code.name | return none
  let limit ← Checked.add code.offset code.length
  if data.length < limit then return none
  let upTo := data.take limit
  let start ← Checked.add code.offset 1
  let some size ← Checked.read upTo start | return none
  let start ← Checked.add start size.length
  let some count ← Checked.read upTo start | return none
  if count.value = 0 then return none
  let start ← Checked.add start count.length
  let some body ← Checked.read upTo start | return none
  let start ← Checked.add start body.length
  let room ← Checked.sub upTo.length start
  if room < body.value then return none
  return some ⟨start, body.value⟩

/-- No check fails on the way, as long as the code section is not empty and ends in a word.  Both
    hold of the index of any bytes, and an index that was made for other bytes has to be asked for
    no more than this: what it says of their length is compared before anything is read. -/
theorem firstBodyInWords_eq {index : SectionIndex} (data : Bytes)
    (hcode : ∀ code, index.get? SectionKind.code.name = some code →
      1 ≤ code.length ∧ code.offset + code.length < UInt64.size) :
    index.firstBodyInWords data = .ok (index.firstBody? data) := by
  unfold firstBodyInWords firstBody?
  cases hget : index.get? SectionKind.code.name with
  | none => rfl
  | some code =>
    obtain ⟨hpos, hword⟩ := hcode code hget
    simp only [Checked.add_of_lt hword, bind, Except.bind, Option.bind]
    -- the index may be that of other bytes, so that the section need not be in these
    by_cases hshort : data.length < code.offset + code.length
    · rw [if_pos hshort, if_pos hshort]
      rfl
    · rw [if_neg hshort, if_neg hshort]
      have hlen : (data.take (code.offset + code.length)).length = code.offset + code.length :=
        List.length_take_of_le (Nat.le_of_not_lt hshort)
      generalize data.take (code.offset + code.length) = upTo at hlen
      have hdata : upTo.length < UInt64.size := by omega
      have hstart : code.offset + 1 ≤ upTo.length := by omega
      simp only [Checked.add_of_lt (Nat.lt_of_le_of_lt hstart hdata), Checked.read_of_le hstart]
      -- three numbers one behind the other, each of which ends where the next may start
      cases hsize : (Leb128.readUnsigned upTo (code.offset + 1)).toOption with
      | none => rfl
      | some size =>
        obtain ⟨hend₁, hadd₁⟩ := Checked.add_of_read hdata hsize
        simp only [hadd₁, Checked.read_of_le hend₁]
        cases hcount : (Leb128.readUnsigned upTo (code.offset + 1 + size.length)).toOption with
        | none => rfl
        | some count =>
          obtain ⟨hend₂, hadd₂⟩ := Checked.add_of_read hdata hcount
          simp only [hadd₂, Checked.read_of_le hend₂]
          by_cases hzero : count.value = 0
          · rw [if_pos hzero, if_pos hzero]
            rfl
          · rw [if_neg hzero, if_neg hzero]
            cases hbody : (Leb128.readUnsigned upTo
                (code.offset + 1 + size.length + count.length)).toOption with
            | none => rfl
            | some body =>
              obtain ⟨hend₃, hadd₃⟩ := Checked.add_of_read hdata hbody
              simp only [hadd₃, Checked.sub_of_le hend₃]
              rw [hlen]
              split <;> rfl

/-! ## Inside -/

/-- The first body lies in the last section that is called `code`, behind an id and three numbers of
    a byte or more, and that section lies in the bytes.  This asks nothing of the index, which may
    be that of other bytes. -/
theorem firstBody?_inside {index : SectionIndex} {data : Bytes} {region : Region}
    (h : index.firstBody? data = some region) :
    ∃ code, index.Last "code" code ∧ code.offset + 4 ≤ region.offset ∧
      region.offset + region.length ≤ code.offset + code.length ∧
      code.offset + code.length ≤ data.length := by
  obtain ⟨code, size, count, body, hcode, hlimit, hsize, hcount, -, hbody, rfl, hfits⟩ :=
    firstBody?_eq_some_iff.mp h
  refine ⟨code, get?_eq_some_iff.mp hcode, ?_, ?_, hlimit⟩
  · have hone := Leb128.one_le_length_of_decodeUnsigned hsize
    have htwo := Leb128.one_le_length_of_decodeUnsigned hcount
    have hthree := Leb128.one_le_length_of_decodeUnsigned hbody
    show code.offset + 4 ≤ code.offset + 1 + size.length + count.length + body.length
    omega
  · have hend := Leb128.end_le_of_read hbody
    rw [List.length_take, Nat.min_eq_left hlimit] at hend
    simp only at hfits ⊢
    omega

end SectionIndex

/-! ## The payload -/

/-- Where the payload of a section lies: behind its id and its length, up to its end. -/
def Span.payload? (span : Span) (data : Bytes) : Option Region := do
  let size ← (Leb128.readUnsigned data (span.offset + 1)).toOption
  return ⟨span.offset + 1 + size.length, span.length - (1 + size.length)⟩

/-- The payload in terms of the decoder: what is skipped is the id and the spelling of the length,
    however many bytes it was spelled with. -/
theorem Span.payload?_eq_some_iff {span : Span} {data : Bytes} {payload : Region} :
    span.payload? data = some payload ↔
      ∃ size, Leb128.decodeUnsigned (data.drop (span.offset + 1)) = .ok size ∧
        payload = ⟨span.offset + 1 + size.length, span.length - (1 + size.length)⟩ := by
  simp only [payload?, Option.bind_eq_bind, Option.bind_eq_some_iff, Leb128.toOption_readUnsigned,
    Option.pure_def, Option.some.injEq]
  constructor
  · rintro ⟨size, hsize, rfl⟩
    exact ⟨size, hsize, rfl⟩
  · rintro ⟨size, hsize, rfl⟩
    exact ⟨size, hsize, rfl⟩

/-- A section that stands in the bytes has a payload, which ends where the section does.  Its length
    is the one that the section declares, unless that was cut off. -/
theorem Span.Stands.exists_payload {data : Bytes} {span : Span} (h : span.Stands data) :
    ∃ payload, span.payload? data = some payload ∧
      payload.offset + payload.length = span.offset + span.length ∧
      (data.length < Span.largest → Leb128.readUnsigned data (span.offset + 1)
        = .ok ⟨payload.length, payload.offset - (span.offset + 1)⟩) := by
  -- a declared length below the largest word was not cut off, so the span has it in full
  obtain ⟨id, size, -, hread, -, hlength, hend⟩ := h
  have hdeclared := Walk.length_lt_declared hread
  refine ⟨_, Span.payload?_eq_some_iff.mpr ⟨size, hread, rfl⟩, ?_, fun hlarge => ?_⟩
  · show span.offset + 1 + size.length + (span.length - (1 + size.length)) = _
    omega
  · have hfull : Walk.declared size = size.value + (1 + size.length) :=
      Walk.declared_of_lt (by omega)
    have hvalue : span.length - (1 + size.length) = size.value := by omega
    have hdigits : span.offset + 1 + size.length - (span.offset + 1) = size.length := by omega
    rw [hvalue, hdigits, Leb128.readUnsigned, Leb128.mapError_eq_ok]
    exact hread

namespace SectionIndex

/-- A section that is found by the name of a kind stands in the bytes that were indexed: the header
    is called otherwise. -/
theorem stands_of_last {data : Bytes} {index : SectionIndex} (kind : SectionKind) {span : Span}
    (h : parse data = .ok index) (hlast : index.Last kind.name span) : span.Stands data := by
  obtain ⟨-, sections, rfl, hrun⟩ := parse_eq_ok_iff_run.mp h
  obtain ⟨hmem, htext⟩ := mem_of_get? (get?_eq_some_iff.mpr hlast)
  rcases List.mem_cons.mp hmem with rfl | hmem
  · have hheader : SectionName.header.text ≠ kind.name := by
      cases kind <;> decide
    exact absurd htext hheader
  · exact hrun.stands span hmem

/-- The steps to the first body from where the payload starts on, with nothing seen but the bytes of
    the payload. -/
theorem firstBody?_eq_some_iff_read {index : SectionIndex} {data : Bytes} {code : Span}
    {payload region : Region} (hcode : index.get? SectionKind.code.name = some code)
    (hlimit : code.offset + code.length ≤ data.length)
    (hpayload : code.payload? data = some payload)
    (hend : payload.offset + payload.length = code.offset + code.length) :
    index.firstBody? data = some region ↔
      ∃ count body, Leb128.decodeUnsigned (payload.of data) = .ok count ∧ count.value ≠ 0 ∧
        Leb128.decodeUnsigned ((payload.of data).drop count.length) = .ok body ∧
        region = ⟨payload.offset + count.length + body.length, body.value⟩ ∧
        count.length + body.length + body.value ≤ payload.length := by
  obtain ⟨size, hsize, rfl⟩ := Span.payload?_eq_some_iff.mp hpayload
  simp only at hend
  -- both sides read in the bytes up to the end of the section
  have hdigits : Leb128.decodeUnsigned
      ((data.take (code.offset + code.length)).drop (code.offset + 1)) = .ok size := by
    rw [List.drop_take]
    exact Leb128.decodeUnsigned_take_of_le hsize (by omega)
  have hbytes : Region.of ⟨code.offset + 1 + size.length, code.length - (1 + size.length)⟩ data
      = (data.take (code.offset + code.length)).drop (code.offset + 1 + size.length) := by
    have hroom : code.length - (1 + size.length)
        = code.offset + code.length - (code.offset + 1 + size.length) := by omega
    rw [Region.of, List.drop_take, hroom]
  have hlen : (data.take (code.offset + code.length)).length = code.offset + code.length :=
    List.length_take_of_le hlimit
  rw [firstBody?_eq_some_iff, hbytes]
  simp only [List.drop_drop]
  constructor
  · rintro ⟨found, size', count, body, hfound, -, hsize', hcount, hne, hbody, rfl, hfits⟩
    obtain rfl : code = found := Option.some.inj (hcode.symm.trans hfound)
    obtain rfl : size = size' := Except.ok.inj (hdigits.symm.trans hsize')
    have hinside := Leb128.end_le_of_read hbody
    refine ⟨count, body, hcount, hne, hbody, rfl, ?_⟩
    simp only at hfits
    omega
  · rintro ⟨count, body, hcount, hne, hbody, rfl, hfits⟩
    refine ⟨code, size, count, body, hcode, hlimit, hdigits, hcount, hne, hbody, rfl, ?_⟩
    simp only
    omega

/-- The code section of an index stands in the bytes with its payload, and the payload lies in
    them. -/
theorem exists_code_payload {data : Bytes} {index : SectionIndex} {code : Span}
    (h : parse data = .ok index) (hlast : index.Last "code" code) :
    ∃ payload, code.payload? data = some payload ∧
      payload.offset + payload.length = code.offset + code.length ∧
      code.offset + code.length ≤ data.length ∧ (payload.of data).length = payload.length := by
  have hstands : code.Stands data := stands_of_last .code h hlast
  obtain ⟨payload, hpayload, hend, -⟩ := hstands.exists_payload
  obtain ⟨-, -, -, -, -, -, hlimit⟩ := hstands
  refine ⟨payload, hpayload, hend, hlimit, ?_⟩
  rw [Region.of, List.length_take, List.length_drop]
  omega

/-- **The first body is the one that the payload tells.** -/
theorem firstBody?_eq_some_iff_payload {data : Bytes} {index : SectionIndex} {region : Region}
    (h : parse data = .ok index) :
    index.firstBody? data = some region ↔
      ∃ code payload count length rest bodies, index.Last "code" code ∧
        code.payload? data = some payload ∧ payload.of data = count ++ (length ++ rest) ∧
        Leb128.Spells count bodies ∧ bodies ≠ 0 ∧ Leb128.Spells length region.length ∧
        region.length ≤ rest.length ∧
        region.offset = payload.offset + count.length + length.length := by
  constructor
  · intro hregion
    obtain ⟨code, hlast, -, -, -⟩ := firstBody?_inside hregion
    obtain ⟨payload, hpayload, hend, hlimit, hlen⟩ := exists_code_payload h hlast
    obtain ⟨count, body, hcount, hne, hbody, rfl, hfits⟩ :=
      (firstBody?_eq_some_iff_read (get?_eq_some_iff.mpr hlast) hlimit hpayload hend).mp hregion
    -- each number is a spelling in front of what is left
    obtain ⟨digits, behind, hsplit, hdigits, hspells⟩ := Leb128.decodeUnsigned_eq_ok_iff.mp hcount
    rw [hsplit, ← hdigits, List.drop_left] at hbody
    obtain ⟨digits', rest, rfl, hdigits', hspells'⟩ := Leb128.decodeUnsigned_eq_ok_iff.mp hbody
    refine ⟨code, payload, digits, digits', rest, count.value, hlast, hpayload, hsplit, hspells,
      hne, hspells', ?_, ?_⟩
    · rw [hsplit, List.length_append, List.length_append] at hlen
      show body.value ≤ rest.length
      omega
    · rw [hdigits, hdigits']
  · rintro ⟨code, payload, count, length, rest, bodies, hlast, hpayload, hsplit, hcount, hne,
      hlength, hfits, hoffset⟩
    obtain ⟨payload', hpayload', hend, hlimit, hlen⟩ := exists_code_payload h hlast
    obtain rfl : payload = payload' := Option.some.inj (hpayload.symm.trans hpayload')
    refine (firstBody?_eq_some_iff_read (get?_eq_some_iff.mpr hlast) hlimit hpayload hend).mpr
      ⟨⟨bodies, count.length⟩, ⟨region.length, length.length⟩, ?_, hne, ?_, ?_, ?_⟩
    · rw [hsplit]
      exact Leb128.decodeUnsigned_append _ hcount
    · rw [hsplit, List.drop_left]
      exact Leb128.decodeUnsigned_append _ hlength
    · rw [← hoffset]
    · rw [hsplit, List.length_append, List.length_append] at hlen
      show count.length + length.length + region.length ≤ payload.length
      omega

/-- Where the number of bodies, or the length of the first, ends behind the payload, no body is
    found, whatever the numbers would be. -/
theorem firstBody?_of_leaving {data : Bytes} {index : SectionIndex} {code : Span}
    {payload : Region} {count : Leb128.Reading Nat} (h : parse data = .ok index)
    (hlast : index.Last "code" code) (hpayload : code.payload? data = some payload)
    (hcount : Leb128.decodeUnsigned (data.drop payload.offset) = .ok count)
    (hleaves : payload.length < count.length ∨
      ∃ length, Leb128.decodeUnsigned (data.drop (payload.offset + count.length)) = .ok length ∧
        payload.length < count.length + length.length) :
    index.firstBody? data = none := by
  obtain ⟨payload', hpayload', hend, hlimit, hlen⟩ := exists_code_payload h hlast
  obtain rfl : payload = payload' := Option.some.inj (hpayload.symm.trans hpayload')
  rw [Option.eq_none_iff_forall_ne_some]
  intro region hregion
  obtain ⟨count', body, hcount', -, hbody, -, hfits⟩ :=
    (firstBody?_eq_some_iff_read (get?_eq_some_iff.mpr hlast) hlimit hpayload hend).mp hregion
  -- a number that is read in the payload is the one that is read in the bytes
  have hsame : count = count' :=
    Except.ok.inj (hcount.symm.trans (Leb128.decodeUnsigned_of_take hcount'))
  subst hsame
  rcases hleaves with hleaves | ⟨length, hlength, hleaves⟩
  · omega
  · rw [Region.of, List.drop_take, List.drop_drop] at hbody
    have hsame : length = body :=
      Except.ok.inj (hlength.symm.trans (Leb128.decodeUnsigned_of_take hbody))
    subst hsame
    omega

/-- **The way to the first body is safe, and finds what the payload tells.**  For an index of any
    bytes, no sum, difference or position on the way leaves the words or the bytes, and what is
    found lies in the last code section.  For the index of the bytes themselves, a region is found
    exactly if the payload of that section spells how many bodies there are, not none, and then the
    length of the region, with so many bytes left from where the region starts; and a number that
    ends behind the payload makes the search fail. -/
theorem firstBody?_exact {source : Bytes} {index : SectionIndex}
    (hsource : parse source = .ok index) (data : Bytes) :
    (source.length < 2 ^ 64 → index.firstBodyInWords data = .ok (index.firstBody? data)) ∧
    (∀ region, index.firstBody? data = some region → ∃ code, index.Last "code" code ∧
      code.offset + 4 ≤ region.offset ∧
      region.offset + region.length ≤ code.offset + code.length ∧
      code.offset + code.length ≤ data.length) ∧
    (parse data = .ok index →
      (∀ code, index.Last "code" code → ∃ payload, code.payload? data = some payload ∧
        payload.offset + payload.length = code.offset + code.length ∧
        (data.length < 2 ^ 63 → Leb128.readUnsigned data (code.offset + 1)
          = .ok ⟨payload.length, payload.offset - (code.offset + 1)⟩)) ∧
      (∀ region, index.firstBody? data = some region ↔
        ∃ code payload count length rest bodies, index.Last "code" code ∧
          code.payload? data = some payload ∧ payload.of data = count ++ (length ++ rest) ∧
          Leb128.Spells count bodies ∧ bodies ≠ 0 ∧ Leb128.Spells length region.length ∧
          region.length ≤ rest.length ∧
          region.offset = payload.offset + count.length + length.length) ∧
      (∀ code payload count, index.Last "code" code → code.payload? data = some payload →
        Leb128.readUnsigned data payload.offset = .ok count →
        (payload.length < count.length ∨
          ∃ length, Leb128.readUnsigned data (payload.offset + count.length) = .ok length ∧
            payload.length < count.length + length.length) →
        index.firstBody? data = none)) := by
  refine ⟨?safe, fun region hregion => firstBody?_inside hregion,
    fun hdata => ⟨?payload, fun region => firstBody?_eq_some_iff_payload hdata, ?leaving⟩⟩
  case safe =>
    intro hwords
    refine firstBodyInWords_eq data fun code hcode => ?_
    obtain ⟨hmem, -⟩ := mem_of_get? hcode
    have hlength := two_le_length_of_parse hsource code hmem
    have hend := ((tiles_of_parse hsource).within code hmem).2
    have hsize : source.length < UInt64.size := hwords
    exact ⟨by omega, by omega⟩
  case payload =>
    intro code hlast
    have hstands : code.Stands data := stands_of_last .code hdata hlast
    obtain ⟨payload, hpayload, hend, hlength⟩ := hstands.exists_payload
    refine ⟨payload, hpayload, hend, fun hsmall => hlength ?_⟩
    simp only [Span.largest, UInt64.size]
    omega
  case leaving =>
    intro code payload count hlast hpayload hcount hleaves
    refine firstBody?_of_leaving hdata hlast hpayload (Leb128.mapError_eq_ok.mp hcount) ?_
    rcases hleaves with hleaves | ⟨length, hlength, hleaves⟩
    · exact Or.inl hleaves
    · exact Or.inr ⟨length, Leb128.mapError_eq_ok.mp hlength, hleaves⟩

/-- A body of two bytes, and a length that is spelled across the end of its section. -/
theorem firstBody?_exact_cut :
    parse (Header.bytes ++ [0x0A, 0x04, 0x01, 0x02, 0x00, 0x0B])
      = .ok ⟨[⟨.header, 0, 8⟩, ⟨.known .code, 8, 6⟩]⟩ ∧
    (Header.bytes ++ [0x0A, 0x04, 0x01, 0x02, 0x00, 0x0B]).length < 2 ^ 64 ∧
    firstBodyInWords ⟨[⟨.header, 0, 8⟩, ⟨.known .code, 8, 6⟩]⟩
      (Header.bytes ++ [0x0A, 0x04, 0x01, 0x02, 0x00, 0x0B]) = .ok (some ⟨12, 2⟩) ∧
    parse (Header.bytes ++ [0x0A, 0x02, 0x01, 0x82, 0x00, 0x00])
      = .ok ⟨[⟨.header, 0, 8⟩, ⟨.known .code, 8, 4⟩, ⟨.unknown 0, 12, 2⟩]⟩ ∧
    firstBody? ⟨[⟨.header, 0, 8⟩, ⟨.known .code, 8, 4⟩, ⟨.unknown 0, 12, 2⟩]⟩
      (Header.bytes ++ [0x0A, 0x02, 0x01, 0x82, 0x00, 0x00]) = none := by
  have hbody : parse (Header.bytes ++ [0x0A, 0x04, 0x01, 0x02, 0x00, 0x0B])
      = .ok ⟨[⟨.header, 0, 8⟩, ⟨.known .code, 8, 6⟩]⟩ := by
    cbv
  have hcut : parse (Header.bytes ++ [0x0A, 0x02, 0x01, 0x82, 0x00, 0x00])
      = .ok ⟨[⟨.header, 0, 8⟩, ⟨.known .code, 8, 4⟩, ⟨.unknown 0, 12, 2⟩]⟩ := by
    cbv
  have hsmall : (Header.bytes ++ [0x0A, 0x04, 0x01, 0x02, 0x00, 0x0B]).length < 2 ^ 64 := by
    decide
  refine ⟨hbody, hsmall, ?_, hcut, ?_⟩
  · obtain ⟨hwords, -, hown⟩ := firstBody?_exact hbody
      (Header.bytes ++ [0x0A, 0x04, 0x01, 0x02, 0x00, 0x0B])
    have hfirst := ((hown hbody).2.1 ⟨12, 2⟩).mpr
      ⟨⟨.known .code, 8, 6⟩, ⟨10, 4⟩, [0x01], [0x02], [0x00, 0x0B], 1,
        ⟨[⟨.header, 0, 8⟩], [], rfl, rfl, by simp⟩, rfl, rfl, rfl, by decide, rfl, by decide, rfl⟩
    rw [hwords hsmall, hfirst]
  · obtain ⟨-, -, hown⟩ := firstBody?_exact hcut
      (Header.bytes ++ [0x0A, 0x02, 0x01, 0x82, 0x00, 0x00])
    exact (hown hcut).2.2 ⟨.known .code, 8, 4⟩ ⟨10, 2⟩ ⟨1, 1⟩
      ⟨[⟨.header, 0, 8⟩], [⟨.unknown 0, 12, 2⟩], rfl, rfl, by decide⟩ rfl rfl
      (Or.inr ⟨⟨2, 2⟩, rfl, by decide⟩)

end SectionIndex

end WasmBinary
