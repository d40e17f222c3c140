/-
  Why bytes are refused, and where.

  1. **The header** — bytes that do not start as a module does are refused with the bytes that stand
     in its place, four at most (`parse_header_cases`).

  2. **The first section that cannot be read** — behind a header, what stops the walk is told with
     the position of the section it stops at.  The position is pinned down by the bytes before it:
     they are a module in themselves, and what stands there does not continue it
     (`parse_eq_error_iff_front`).  What comes behind that section plays no part.

  3. **Cuts** — a module that is cut off is a module again where the cut is the end of a section.  A
     cut inside a section leaves one that cannot be read, for want of digits if the cut is inside
     its length and for want of payload if it is behind it (`Span.Stands.cut`).
-/
import WasmBinary.Proofs.Leb128.RoundTrip
import WasmBinary.Proofs.Section.Steps

namespace WasmBinary

namespace Header

theorem magic_prefix_iff {data : Bytes} : magic <+: data ↔ data.take 4 = magic := by
  rw [List.prefix_iff_eq_take]
  exact eq_comm

theorem version_prefix_iff {data : Bytes} : version <+: data ↔ data.take 4 = version := by
  rw [List.prefix_iff_eq_take]
  exact eq_comm

/-- A header is the magic number and the version behind it. -/
theorem bytes_prefix_iff {data : Bytes} :
    bytes <+: data ↔ magic <+: data ∧ version <+: data.drop 4 := by
  constructor
  · rintro ⟨rest, rfl⟩
    exact ⟨⟨version ++ rest, rfl⟩, ⟨rest, rfl⟩⟩
  · rintro ⟨⟨behind, rfl⟩, ⟨rest, hrest⟩⟩
    have hbehind : version ++ rest = behind := hrest
    exact ⟨rest, by rw [← hbehind, bytes, List.append_assoc]⟩

end Header

/-! ## What stops the walk -/

/-- Where the section starts that an error is about. -/
def Error.sectionAt? : Error → Option Nat
  | .number pos _ => some (pos - 1)
  | .truncatedSection offset _ _ => some offset
  | _ => none

namespace Walk

/-- The walk is stuck for a length that cannot be read exactly where the reader refuses it, and the
    error is the one of the reader. -/
theorem stuck_number_iff {data : Bytes} {pos : Nat} {fault : Leb128.Fault} :
    Stuck data pos (.number (pos + 1) fault) ↔ pos < data.length ∧
      Leb128.readUnsigned data (pos + 1) = .error (.number (pos + 1) fault) := by
  rw [Leb128.readUnsigned, Leb128.mapError_eq_error]
  constructor
  · rintro (⟨hinside, hread⟩ | -)
    exact ⟨hinside, fault, rfl, hread⟩
  · rintro ⟨hinside, found, hfound, hread⟩
    obtain ⟨-, rfl⟩ := Error.number.inj hfound
    exact .fault hinside hread

/-- The walk is stuck for want of bytes exactly where the length can be read and, with the id and
    its own digits, comes to more than there is.  What is declared is told up to the largest word,
    as it may not fit into one. -/
theorem stuck_truncatedSection_iff {data : Bytes} {pos declared available : Nat} :
    Stuck data pos (.truncatedSection pos declared available) ↔ pos < data.length ∧
      ∃ p k, Leb128.readUnsigned data (pos + 1) = .ok ⟨p, k⟩ ∧
        declared = min (p + 1 + k) (2 ^ 64 - 1) ∧ available = data.length - pos ∧
        available < declared := by
  have hdeclared : ∀ p k, Walk.declared ⟨p, k⟩ = min (p + 1 + k) (2 ^ 64 - 1) := fun p k =>
    congrArg (min · Span.largest) (Nat.add_assoc p 1 k).symm
  constructor
  · rintro (- | ⟨hinside, hread, hless⟩)
    exact ⟨hinside, _, _, Leb128.mapError_eq_ok.mpr hread, hdeclared _ _, rfl, hless⟩
  · rintro ⟨hinside, p, k, hread, rfl, rfl, hless⟩
    rw [← hdeclared] at hless ⊢
    exact .short hinside (Leb128.mapError_eq_ok.mp hread) hless

/-- What stops the walk is about the section it stops at. -/
theorem Stuck.sectionAt?_eq {data : Bytes} {pos : Nat} {e : Error} (h : Stuck data pos e) :
    e.sectionAt? = some pos := by
  cases h with
  | fault _ _ => rfl
  | short _ _ _ => rfl

end Walk

namespace SectionIndex

/-- Bytes without a header are refused for it, for the magic number first.  There is no third way:
    all other bytes start with the eight bytes of a header. -/
theorem parse_header_cases (data : Bytes) :
    (¬ Header.magic <+: data ∧ parse data = .error (.badMagic (data.take 4))) ∨
    (Header.magic <+: data ∧ ¬ Header.version <+: data.drop 4 ∧
      parse data = .error (.badVersion ((data.drop 4).take 4))) ∨
    Header.bytes <+: data := by
  rw [Header.magic_prefix_iff, Header.version_prefix_iff]
  rcases Walk.ofModule_cases data with ⟨hmagic, hbad⟩ | ⟨hmagic, hversion, hbad⟩ | ⟨rest, hrest⟩
  · exact Or.inl ⟨hmagic, by rw [parse, hbad]⟩
  · exact Or.inr (Or.inl ⟨hmagic, hversion, by rw [parse, hbad]⟩)
  · exact Or.inr (Or.inr ⟨rest, hrest.symm⟩)

/-- The magic number is found wrong exactly where the bytes do not start with it, and what is told
    are the first four bytes, or all of them where there are fewer. -/
theorem parse_eq_badMagic_iff {data found : Bytes} :
    parse data = .error (.badMagic found) ↔
      ¬ Header.magic <+: data ∧ found = data.take 4 := by
  rcases parse_header_cases data with ⟨hmagic, hbad⟩ | ⟨hmagic, -, hbad⟩ | hheader
  · rw [hbad, Except.error.injEq, Error.badMagic.injEq, eq_comm, and_iff_right hmagic]
  · rw [hbad]
    exact iff_of_false (fun h => nomatch h) fun h => h.1 hmagic
  · refine iff_of_false (fun h => ?_) fun h => h.1 (Header.bytes_prefix_iff.mp hheader).1
    obtain ⟨-, stop, -, hstuck⟩ := (parse_eq_error_iff_stuck hheader).mp h
    nomatch hstuck

/-- The version is found wrong exactly where it does not stand behind the magic number, and what is
    told are the bytes in its place. -/
theorem parse_eq_badVersion_iff {data found : Bytes} :
    parse data = .error (.badVersion found) ↔ Header.magic <+: data ∧
      ¬ Header.version <+: data.drop 4 ∧ found = (data.drop 4).take 4 := by
  rcases parse_header_cases data with ⟨hmagic, hbad⟩ | ⟨hmagic, hversion, hbad⟩ | hheader
  · rw [hbad]
    exact iff_of_false (fun h => nomatch h) fun h => hmagic h.1
  · rw [hbad, Except.error.injEq, Error.badVersion.injEq, eq_comm, and_iff_right hmagic,
      and_iff_right hversion]
  · refine iff_of_false (fun h => ?_) fun h => h.2.1 (Header.bytes_prefix_iff.mp hheader).2
    obtain ⟨-, stop, -, hstuck⟩ := (parse_eq_error_iff_stuck hheader).mp h
    nomatch hstuck

/-- Behind a header the walk is stuck where the bytes before are a module in themselves.  The
    position needs no other description, because a run of sections can be stuck at its end only. -/
theorem parse_eq_error_iff_front {data : Bytes} {e : Error} :
    Header.bytes <+: data ∧ parse data = .error e ↔
      ∃ o, 8 ≤ o ∧ (∃ index, parse (data.take o) = .ok index) ∧ Walk.Stuck data o e := by
  constructor
  · rintro ⟨hheader, herror⟩
    obtain ⟨sections, o, hrun, hstuck⟩ := (parse_eq_error_iff_stuck hheader).mp herror
    have hlow : 8 ≤ o := hrun.tiles.start_le
    refine ⟨o, hlow, ⟨⟨Span.header :: sections⟩, ?_⟩, hstuck⟩
    exact (parse_take_eq_ok_iff hlow (Nat.le_of_lt hstuck.inside)).mpr
      ⟨hheader, sections, rfl, hrun⟩
  · rintro ⟨o, hlow, ⟨index, hparse⟩, hstuck⟩
    obtain ⟨hheader, sections, -, hrun⟩ :=
      (parse_take_eq_ok_iff hlow (Nat.le_of_lt hstuck.inside)).mp hparse
    exact ⟨hheader, (parse_eq_error_iff_stuck hheader).mpr ⟨sections, o, hrun, hstuck⟩⟩

/-- Bytes are refused for a section exactly where the bytes before it are a module in themselves and
    the walk is stuck there. -/
theorem parse_eq_error_iff_at {data : Bytes} {e : Error} {o : Nat}
    (he : e.sectionAt? = some o) :
    parse data = .error e ↔
      8 ≤ o ∧ (∃ index, parse (data.take o) = .ok index) ∧ Walk.Stuck data o e := by
  constructor
  · intro h
    rcases parse_header_cases data with ⟨-, hbad⟩ | ⟨-, -, hbad⟩ | hheader
    · obtain rfl := Except.error.inj (h.symm.trans hbad)
      nomatch he
    · obtain rfl := Except.error.inj (h.symm.trans hbad)
      nomatch he
    · -- the error tells where the walk is stuck, so that is the position it names
      obtain ⟨pos, hlow, hprefix, hstuck⟩ := parse_eq_error_iff_front.mp ⟨hheader, h⟩
      obtain rfl : pos = o := Option.some.inj (hstuck.sectionAt?_eq.symm.trans he)
      exact ⟨hlow, hprefix, hstuck⟩
  · rintro ⟨hlow, hprefix, hstuck⟩
    exact (parse_eq_error_iff_front.mpr ⟨o, hlow, hprefix, hstuck⟩).2

/-- **A refusal points at the first thing that cannot be read.**  Bytes that do not start with the
    magic number, or with the version behind it, are refused for what stands there instead.  A
    section is at fault exactly where the bytes before it are a module in themselves, and it
    declares more than there is left, or its length cannot be read at all.  There is no other way to
    be refused. -/
theorem parse_tells_first_unreadable (data : Bytes) :
    (∀ found, parse data = .error (.badMagic found) ↔
      ¬ Header.magic <+: data ∧ found = data.take 4) ∧
    (∀ found, parse data = .error (.badVersion found) ↔ Header.magic <+: data ∧
      ¬ Header.version <+: data.drop 4 ∧ found = (data.drop 4).take 4) ∧
    (∀ o declared available,
      parse data = .error (.truncatedSection o declared available) ↔
        8 ≤ o ∧ o < data.length ∧ (∃ index, parse (data.take o) = .ok index) ∧
        ∃ p k, Leb128.readUnsigned data (o + 1) = .ok ⟨p, k⟩ ∧
          declared = min (p + 1 + k) (2 ^ 64 - 1) ∧ available = data.length - o ∧
          available < declared) ∧
    (∀ o fault, parse data = .error (.number (o + 1) fault) ↔
      8 ≤ o ∧ o < data.length ∧ (∃ index, parse (data.take o) = .ok index) ∧
      Leb128.readUnsigned data (o + 1) = .error (.number (o + 1) fault)) ∧
    ((∃ index, parse data = .ok index) ∨
      (∃ found, parse data = .error (.badMagic found)) ∨
      (∃ found, parse data = .error (.badVersion found)) ∨
      (∃ o declared available,
        parse data = .error (.truncatedSection o declared available)) ∨
      ∃ o fault, parse data = .error (.number (o + 1) fault)) := by
  refine ⟨fun _ => parse_eq_badMagic_iff, fun _ => parse_eq_badVersion_iff, fun o _ _ => ?_,
    fun o fault => ?_, ?_⟩
  · rw [parse_eq_error_iff_at rfl, Walk.stuck_truncatedSection_iff]
    exact and_congr_right fun _ => and_left_comm
  · have hat : (Error.number (o + 1) fault).sectionAt? = some o := rfl
    rw [parse_eq_error_iff_at hat, Walk.stuck_number_iff]
    exact and_congr_right fun _ => and_left_comm
  · cases h : parse data with
    | ok index => exact Or.inl ⟨index, rfl⟩
    | error e =>
      refine Or.inr ?_
      rcases parse_header_cases data with ⟨-, hbad⟩ | ⟨-, -, hbad⟩ | hheader
      · exact Or.inl ⟨_, h.symm.trans hbad⟩
      · exact Or.inr (Or.inl ⟨_, h.symm.trans hbad⟩)
      · obtain ⟨o, -, -, hstuck⟩ := parse_eq_error_iff_front.mp ⟨hheader, h⟩
        cases hstuck with
        | fault _ _ => exact Or.inr (Or.inr (Or.inr ⟨o, _, rfl⟩))
        | short _ _ _ => exact Or.inr (Or.inr (Or.inl ⟨o, _, _, rfl⟩))

example : parse (Header.bytes ++ [0x01, 0xFF, 0xFF, 0xFF, 0xFF, 0xFF, 0xFF, 0xFF, 0xFF, 0xFF, 0x01])
    = .error (.truncatedSection 8 (2 ^ 64 - 1) 11) := by
  cbv

end SectionIndex

/-! ## Cuts -/

/-- A cut inside a section leaves one that cannot be read: its length breaks off, or all of it can
    be read and declares what is no longer there. -/
theorem Span.Stands.cut {data : Bytes} {span : Span} {k : Nat} (h : span.Stands data)
    (hlow : span.offset < k) (hhigh : k < span.offset + span.length) :
    ∃ size, Leb128.readUnsigned data (span.offset + 1) = .ok size ∧
      (k < span.offset + 1 + size.length →
        Walk.Stuck (data.take k) span.offset (.number (span.offset + 1) .unterminated)) ∧
      (span.offset + 1 + size.length ≤ k → Walk.Stuck (data.take k) span.offset
        (.truncatedSection span.offset span.length (k - span.offset))) := by
  -- what is left from the length on is what there was, cut off that much further on
  obtain ⟨-, size, -, hread, -, hlength, hend⟩ := h
  have hlen : (data.take k).length = k := List.length_take_of_le (by omega)
  have hinside : span.offset < (data.take k).length := by omega
  have hdrop : (data.take k).drop (span.offset + 1)
      = (data.drop (span.offset + 1)).take (k - (span.offset + 1)) := List.drop_take
  refine ⟨size, Leb128.mapError_eq_ok.mpr hread, fun hcut => ?_, fun hcut => ?_⟩
  · refine .fault hinside ?_
    rw [hdrop]
    exact Leb128.decodeUnsigned_take_of_lt hread (by omega)
  · have hkept : Leb128.decodeUnsigned ((data.take k).drop (span.offset + 1)) = .ok size := by
      rw [hdrop]
      exact Leb128.decodeUnsigned_take_of_le hread (by omega)
    have hshort := Walk.Stuck.short hinside hkept (by omega)
    rwa [hlen, ← hlength] at hshort

namespace SectionIndex

/-- A cut in the first four bytes leaves a beginning of the magic number, which is told as it is. -/
theorem parse_take_eq_badMagic (data : Bytes) {k : Nat} (hk : k < 4) :
    parse (data.take k) = .error (.badMagic (data.take k)) := by
  have hlen : (data.take k).length ≤ k := List.length_take_le k data
  have hfound : data.take k = (data.take k).take 4 := (List.take_of_length_le (by omega)).symm
  refine parse_eq_badMagic_iff.mpr ⟨fun hprefix => ?_, hfound⟩
  have hlong : 4 ≤ (data.take k).length := hprefix.length_le
  omega

/-- A cut in the second four bytes leaves a beginning of the version, which is told as it is; it may
    be empty. -/
theorem parse_take_eq_badVersion {data : Bytes} {k : Nat} (hmagic : Header.magic <+: data)
    (hlow : 4 ≤ k) (hhigh : k < 8) :
    parse (data.take k) = .error (.badVersion ((data.take k).drop 4)) := by
  have hlen : ((data.take k).drop 4).length < 4 := by
    have := List.length_take_le k data
    rw [List.length_drop]
    omega
  have hfound : (data.take k).drop 4 = ((data.take k).drop 4).take 4 :=
    (List.take_of_length_le (Nat.le_of_lt hlen)).symm
  have hmagic' : Header.magic <+: data.take k := List.prefix_take_iff.mpr ⟨hmagic, hlow⟩
  refine parse_eq_badVersion_iff.mpr ⟨hmagic', fun hprefix => ?_, hfound⟩
  have hlong : 4 ≤ ((data.take k).drop 4).length := hprefix.length_le
  omega

/-- A cut at the end of a run leaves the spans that end there or before. -/
theorem parse_take_run {data : Bytes} {before after : List Span} {k : Nat}
    (h : parse data = .ok ⟨Span.header :: (before ++ after)⟩) (hrun : Walk.Run data 8 before k)
    (hafter : Tiles k after data.length) :
    parse (data.take k) = .ok ⟨(Span.header :: (before ++ after)).filter
      fun span => span.offset + span.length ≤ k⟩ := by
  -- the header counts as one of the spans that end before the cut
  have htiles : Tiles 0 (Span.header :: before) k := ⟨rfl, hrun.tiles⟩
  have hpos : ∀ span ∈ after, 0 < span.length := fun span hmem =>
    Nat.lt_of_lt_of_le Nat.two_pos (two_le_length_of_parse h span
      (List.mem_cons_of_mem _ (List.mem_append_right before hmem)))
  rw [← List.cons_append, htiles.filter_end_le hafter hpos]
  exact (parse_take_eq_ok_iff hrun.tiles.start_le hafter.start_le).mpr
    ⟨(parse_eq_ok_iff_run.mp h).1, before, rfl, hrun⟩

/-- A cut behind a run is told of what stands there. -/
theorem parse_take_stuck {data : Bytes} {sections : List Span} {k o : Nat} {e : Error}
    (hheader : Header.bytes <+: data) (hrun : Walk.Run data 8 sections o) (hlow : o ≤ k)
    (hstuck : Walk.Stuck (data.take k) o e) : parse (data.take k) = .error e := by
  have hheader' : Header.bytes <+: data.take k :=
    List.prefix_take_iff.mpr ⟨hheader, Nat.le_trans hrun.tiles.start_le hlow⟩
  exact (parse_eq_error_iff_stuck hheader').mpr
    ⟨sections, o, (Walk.Run.take_iff hlow).mpr hrun, hstuck⟩

/-- **A module that is cut off is refused, unless the cut is between two sections.**  A cut inside
    the header is told with what is left of the magic number or of the version.  A cut at the end of
    a section leaves the sections up to there.  Every other cut lies inside a section, and is told
    of that section: its length cannot be read when the cut is in front of its last digit, and is
    more than what is left when the cut is behind it. -/
theorem parse_take_tells (data : Bytes) (index : SectionIndex) (h : parse data = .ok index)
    (k : Nat) (hk : k < data.length) :
    (k < 4 → parse (data.take k) = .error (.badMagic (data.take k))) ∧
    (4 ≤ k → k < 8 → parse (data.take k) = .error (.badVersion ((data.take k).drop 4))) ∧
    (8 ≤ k →
      ((∃ span ∈ index.spans, span.offset + span.length = k) → parse (data.take k)
        = .ok ⟨index.spans.filter fun span => span.offset + span.length ≤ k⟩) ∧
      ((¬ ∃ span ∈ index.spans, span.offset + span.length = k) →
        ∃ span ∈ index.spans, 8 ≤ span.offset ∧ span.offset < k ∧
          k < span.offset + span.length ∧
          ∃ size, Leb128.readUnsigned data (span.offset + 1) = .ok size ∧
            (k < span.offset + 1 + size.length → parse (data.take k)
              = .error (.number (span.offset + 1) .unterminated)) ∧
            (span.offset + 1 + size.length ≤ k → parse (data.take k)
              = .error (.truncatedSection span.offset span.length (k - span.offset))))) := by
  obtain ⟨hheader, sections, rfl, hrun⟩ := parse_eq_ok_iff_run.mp h
  refine ⟨parse_take_eq_badMagic data,
    parse_take_eq_badVersion (Header.bytes_prefix_iff.mp hheader).1, fun h8 => ?_⟩
  -- the section that holds the cut, and what is before and behind it
  obtain ⟨before, span, after, rfl, hbefore, hspan, hafter, hlow, hhigh⟩ :=
    hrun.exists_split h8 hk
  have htiles : Tiles 0 (Span.header :: before) span.offset := ⟨rfl, hbefore.tiles⟩
  have hends := htiles.exists_end_iff hafter.tiles (List.cons_ne_nil _ _) hlow hhigh
  refine ⟨fun hend => ?_, fun hnone => ?_⟩
  · obtain rfl : span.offset = k := hends.mp hend
    exact parse_take_run h hbefore ⟨rfl, hafter.tiles⟩
  · have hinside : span.offset < k := Nat.lt_of_le_of_ne hlow fun heq => hnone (hends.mpr heq)
    obtain ⟨size, hread, hdigits, hpayload⟩ := hspan.cut hinside hhigh
    refine ⟨span, ?_, hbefore.tiles.start_le, hinside, hhigh, size, hread, fun hcut => ?_,
      fun hcut => ?_⟩
    · exact List.mem_cons_of_mem _ (List.mem_append_right before List.mem_cons_self)
    · exact parse_take_stuck hheader hbefore hlow (hdigits hcut)
    · exact parse_take_stuck hheader hbefore hlow (hpayload hcut)

/-- A module of two sections, cut off behind the padded length of the first. -/
theorem parse_take_behind_length :
    parse (Header.bytes ++ [0x00, 0x81, 0x00, 0x2A, 0x03, 0x00])
      = .ok ⟨[⟨.header, 0, 8⟩, ⟨.unknown 0, 8, 4⟩, ⟨.known .functions, 12, 2⟩]⟩ ∧
    11 < (Header.bytes ++ [0x00, 0x81, 0x00, 0x2A, 0x03, 0x00]).length ∧
    parse (Header.bytes ++ [0x00, 0x81, 0x00]) = .error (.truncatedSection 8 4 3) := by
  have hparse : parse (Header.bytes ++ [0x00, 0x81, 0x00, 0x2A, 0x03, 0x00])
      = .ok ⟨[⟨.header, 0, 8⟩, ⟨.unknown 0, 8, 4⟩, ⟨.known .functions, 12, 2⟩]⟩ := by
    cbv
  have hk : 11 < (Header.bytes ++ [0x00, 0x81, 0x00, 0x2A, 0x03, 0x00]).length := by decide
  obtain ⟨-, -, htells⟩ := parse_take_tells _ _ hparse 11 hk
  obtain ⟨span, hmem, hstart, hinside, -, size, hread, -, hpayload⟩ :=
    (htells (by decide)).2 (by decide)
  refine ⟨hparse, hk, ?_⟩
  -- of the three spans only the middle one holds the cut
  simp only [List.mem_cons, List.not_mem_nil, or_false] at hmem
  obtain rfl | rfl | rfl := hmem
  · exact absurd hstart (by decide)
  · have hsize : size = ⟨1, 2⟩ := (Except.ok.inj hread).symm
    exact hpayload (by rw [hsize]; decide)
  · exact absurd hinside (by decide)

end SectionIndex

end WasmBinary
