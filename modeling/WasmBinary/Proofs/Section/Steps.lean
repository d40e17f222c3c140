/-
  The walk step by step: what a step reads, and what it does not.

  1. **A step** — `Span.Stands` says what has to be in the bytes for the walk to step over a
     section, and `Walk.Stuck` what stops it.  Both look at the bytes from the id of the section
     on, and a step at no byte behind the section (`Span.stands_take_iff`).

  2. **A run** — `Walk.Run` is a tiling by sections that stand in the bytes.  A walk is a run up to
     the position where it is stuck, or to the end of the input (`exists_run`), and a run is the
     beginning of any walk from its start (`Run.fromPos_eq`).

  3. **Modules** — an index is a run behind the header that reaches the end, and an error behind the
     header is a run up to a position where the walk is stuck.  Since a run sees nothing behind its
     end, it is still there when the input is cut off at its end (`parse_take_eq_ok_iff`).

  Nothing here asks for a bound on the input: a length that is cut off at the largest word is cut
  off in the same way wherever the section stands.
-/
import WasmBinary.Proofs.Section.Walk

namespace WasmBinary

/-- The first section starts behind eight bytes. -/
theorem Header.length_eq : Header.length = 8 := rfl

/-! ## Steps -/

/-- A section stands in the bytes where the span says: its id is there, the length behind the id
    can be read, and all that the section declares is there. -/
def Span.Stands (data : Bytes) (span : Span) : Prop :=
  ∃ id size, data[span.offset]? = some id ∧
    Leb128.decodeUnsigned (data.drop (span.offset + 1)) = .ok size ∧
    span.name = .ofId id ∧ span.length = Walk.declared size ∧
    span.offset + span.length ≤ data.length

/-- What a section holds at least: its id and its length in full. -/
theorem Walk.length_lt_declared {data : Bytes} {size : Leb128.Reading Nat}
    (hread : Leb128.decodeUnsigned data = .ok size) : 1 + size.length ≤ declared size := by
  have hten : size.length ≤ 10 := Leb128.decodeUnsignedWithin_length_le hread
  simp only [declared, Span.largest, UInt64.size]
  omega

namespace Span

/-- A section that ends before a cut stands on this side of it as it does without the cut. -/
theorem stands_take_iff {data : Bytes} {span : Span} {k : Nat}
    (hk : span.offset + span.length ≤ k) : span.Stands (data.take k) ↔ span.Stands data := by
  have hdrop : (data.take k).drop (span.offset + 1)
      = (data.drop (span.offset + 1)).take (k - (span.offset + 1)) := List.drop_take
  constructor
  · rintro ⟨id, size, hid, hread, hname, hlength, hend⟩
    rw [hdrop] at hread
    have hread := Leb128.decodeUnsigned_of_take hread
    have hdeclared := Walk.length_lt_declared hread
    rw [List.getElem?_take_of_lt (by omega)] at hid
    rw [List.length_take] at hend
    exact ⟨id, size, hid, hread, hname, hlength, by omega⟩
  · rintro ⟨id, size, hid, hread, hname, hlength, hend⟩
    -- the digits of the length lie inside the section
    have hdeclared := Walk.length_lt_declared hread
    refine ⟨id, size, ?_, ?_, hname, hlength, ?_⟩
    · rwa [List.getElem?_take_of_lt (by omega)]
    · rw [hdrop]
      exact Leb128.decodeUnsigned_take_of_le hread (by omega)
    · rw [List.length_take]
      omega

end Span

namespace Walk

/-- What stops the walk at a position inside the input. -/
inductive Stuck (data : Bytes) (pos : Nat) : Error → Prop
  /-- The length of the section cannot be read. -/
  | fault {fault : Leb128.Fault} (inside : pos < data.length)
      (read : Leb128.decodeUnsigned (data.drop (pos + 1)) = .error fault) :
      Stuck data pos (.number (pos + 1) fault)
  /-- The section declares more than there is. -/
  | short {size : Leb128.Reading Nat} (inside : pos < data.length)
      (read : Leb128.decodeUnsigned (data.drop (pos + 1)) = .ok size)
      (less : data.length - pos < declared size) :
      Stuck data pos (.truncatedSection pos (declared size) (data.length - pos))

/-- The walk is stuck inside the input only: at the end it is over. -/
theorem Stuck.inside {data : Bytes} {pos : Nat} {e : Error} (h : Stuck data pos e) :
    pos < data.length := by
  cases h with
  | fault inside _ => exact inside
  | short inside _ _ => exact inside

/-- Where the walk is stuck it finds no section, and tells what stopped it. -/
theorem Stuck.fromPos_eq {data : Bytes} {pos : Nat} {e : Error} (h : Stuck data pos e) :
    fromPos data pos = ⟨[], some e⟩ := by
  cases h with
  | fault inside read => exact fromPos_fault inside read
  | short inside read less => exact fromPos_short inside read less

/-- The walk steps over a section that stands in the bytes. -/
theorem fromPos_stands {data : Bytes} {span : Span} (h : span.Stands data) :
    fromPos data span.offset = cons span (fromPos data (span.offset + span.length)) := by
  obtain ⟨id, size, hid, hread, hname, hlength, hend⟩ := h
  -- the name is made from the byte that is there
  obtain ⟨hinside, rfl⟩ := List.getElem?_eq_some_iff.mp hid
  rw [fromPos_step hinside hread (by omega), ← hname, ← hlength]

/-! ## Runs -/

/-- Sections that stand in the bytes side by side.  A run says nothing about what is behind it: it
    may go on, be stuck there or have reached the end. -/
structure Run (data : Bytes) (start : Nat) (spans : List Span) (stop : Nat) : Prop where
  tiles : Tiles start spans stop
  stands : ∀ span ∈ spans, span.Stands data

namespace Run

/-- A run of one more section: the section stands where the run starts, and the run goes on behind
    it. -/
theorem cons_iff {data : Bytes} {start stop : Nat} {span : Span} {spans : List Span} :
    Run data start (span :: spans) stop ↔
      span.offset = start ∧ span.Stands data ∧ Run data (start + span.length) spans stop := by
  constructor
  · rintro ⟨⟨hoffset, htiles⟩, hstands⟩
    obtain ⟨hspan, hspans⟩ := List.forall_mem_cons.mp hstands
    exact ⟨hoffset, hspan, htiles, hspans⟩
  · rintro ⟨hoffset, hspan, htiles, hspans⟩
    exact ⟨⟨hoffset, htiles⟩, List.forall_mem_cons.mpr ⟨hspan, hspans⟩⟩

/-- The walk follows a run to its end, and goes on from there. -/
theorem fromPos_eq {data : Bytes} {start stop : Nat} {spans : List Span}
    (h : Run data start spans stop) :
    fromPos data start = ⟨spans ++ (fromPos data stop).spans, (fromPos data stop).stop⟩ := by
  induction spans generalizing start with
  | nil =>
    obtain rfl : start = stop := h.tiles
    rfl
  | cons span spans ih =>
    obtain ⟨rfl, hspan, hrest⟩ := cons_iff.mp h
    rw [fromPos_stands hspan, ih hrest]
    rfl

/-- Every position of a run lies in one of its sections, which splits the run. -/
theorem exists_split {data : Bytes} {start stop k : Nat} {spans : List Span}
    (h : Run data start spans stop) (hlow : start ≤ k) (hhigh : k < stop) :
    ∃ before span after, spans = before ++ span :: after ∧
      Run data start before span.offset ∧ span.Stands data ∧
      Run data (span.offset + span.length) after stop ∧
      span.offset ≤ k ∧ k < span.offset + span.length := by
  obtain ⟨before, span, after, rfl, hbefore, hafter, hin⟩ := h.tiles.exists_split hlow hhigh
  obtain ⟨hstands, hrest⟩ := List.forall_mem_append.mp h.stands
  obtain ⟨hspan, hstands'⟩ := List.forall_mem_cons.mp hrest
  exact ⟨before, span, after, rfl, ⟨hbefore, hstands⟩, hspan, ⟨hafter, hstands'⟩, hin⟩

/-- A run that ends before a cut is a run on this side of it as it is without the cut.  In both
    directions: a cut takes no section away that ends before it, and brings none about. -/
theorem take_iff {data : Bytes} {start stop k : Nat} {spans : List Span} (hk : stop ≤ k) :
    Run (data.take k) start spans stop ↔ Run data start spans stop := by
  -- every section of the run ends before the cut, because the run does
  have hends : Tiles start spans stop → ∀ span ∈ spans, span.offset + span.length ≤ k :=
    fun htiles span hmem => Nat.le_trans (htiles.within span hmem).2 hk
  constructor
  · rintro ⟨htiles, hstands⟩
    refine ⟨htiles, fun span hmem => ?_⟩
    exact (Span.stands_take_iff (hends htiles span hmem)).mp (hstands span hmem)
  · rintro ⟨htiles, hstands⟩
    refine ⟨htiles, fun span hmem => ?_⟩
    exact (Span.stands_take_iff (hends htiles span hmem)).mpr (hstands span hmem)

/-- What stands behind a run does not change it. -/
theorem append {data : Bytes} {start : Nat} {spans : List Span}
    (h : Run data start spans data.length) (rest : Bytes) :
    Run (data ++ rest) start spans data.length := by
  rw [← take_iff (Nat.le_refl _), List.take_left]
  exact h

end Run

/-- A walk is a run, either to the end of the input or to a position where it is stuck.  This is the
    only place where the four turns of the walk are told apart; what follows speaks of runs. -/
theorem exists_run {data : Bytes} (pos : Nat) (h : pos ≤ data.length) :
    ∃ stop, Run data pos (fromPos data pos).spans stop ∧
      (stop = data.length ∧ (fromPos data pos).stop = none ∨
        ∃ e, Stuck data stop e ∧ (fromPos data pos).stop = some e) := by
  revert h
  refine fromPos_induct (motive := fun pos walk => pos ≤ data.length →
    ∃ stop, Run data pos walk.spans stop ∧ (stop = data.length ∧ walk.stop = none ∨
      ∃ e, Stuck data stop e ∧ walk.stop = some e)) ?_ ?_ ?_ ?_ pos
  · intro pos hend h
    exact ⟨pos, ⟨rfl, List.forall_mem_nil _⟩, Or.inl ⟨Nat.le_antisymm h hend, rfl⟩⟩
  · intro pos fault hlt hread _
    exact ⟨pos, ⟨rfl, List.forall_mem_nil _⟩, Or.inr ⟨_, .fault hlt hread, rfl⟩⟩
  · intro pos size hlt hread hshort _
    exact ⟨pos, ⟨rfl, List.forall_mem_nil _⟩, Or.inr ⟨_, .short hlt hread hshort, rfl⟩⟩
  · intro pos size after hlt hread hfits ih _
    have hend : pos + declared size ≤ data.length :=
      Nat.add_le_of_le_sub' (Nat.le_of_lt hlt) hfits
    obtain ⟨stop, hrun, hstop⟩ := ih hend
    have hspan : Span.Stands data ⟨.ofId data[pos], pos, declared size⟩ :=
      ⟨data[pos], size, List.getElem?_eq_getElem hlt, hread, rfl, rfl, hend⟩
    exact ⟨stop, Run.cons_iff.mpr ⟨rfl, hspan, hrun⟩, hstop⟩

end Walk

/-! ## Modules -/

namespace SectionIndex

/-- An index is the header and a run behind it that reaches the end. -/
theorem parse_eq_ok_iff_run {data : Bytes} {index : SectionIndex} :
    parse data = .ok index ↔ Header.bytes <+: data ∧ ∃ sections,
      index = ⟨Span.header :: sections⟩ ∧ Walk.Run data 8 sections data.length := by
  rw [parse_eq_ok_iff]
  constructor
  · rintro ⟨⟨rest, hrest⟩, hstop, rfl⟩
    -- a walk that nothing stopped is not stuck, so the run reaches the end
    obtain ⟨stop, hrun, ⟨rfl, -⟩ | ⟨e, -, he⟩⟩ := Walk.exists_run 8 (length_le_of_header hrest)
    · exact ⟨⟨rest, hrest.symm⟩, _, rfl, hrun⟩
    · rw [← Header.length_eq, hstop] at he
      nomatch he
  · rintro ⟨⟨rest, hrest⟩, sections, rfl, hrun⟩
    have hwalk : Walk.fromPos data Header.length = ⟨sections, none⟩ := by
      rw [Header.length_eq, hrun.fromPos_eq, Walk.fromPos_end (Nat.le_refl _), List.append_nil]
    rw [hwalk]
    exact ⟨⟨rest, hrest.symm⟩, rfl, rfl⟩

/-- Behind a header an error is what stopped the walk. -/
theorem parse_eq_error_iff_stop {data : Bytes} {e : Error} (hheader : Header.bytes <+: data) :
    parse data = .error e ↔ (Walk.fromPos data 8).stop = some e := by
  obtain ⟨rest, rfl⟩ := hheader
  rw [parse_append, Header.length_eq]
  cases (Walk.fromPos (Header.bytes ++ rest) 8).stop with
  | none => exact iff_of_false (fun h => nomatch h) fun h => nomatch h
  | some found =>
    show Except.error found = Except.error e ↔ _
    rw [Except.error.injEq, Option.some.injEq]

/-- Behind a header an error is a run up to where the walk is stuck. -/
theorem parse_eq_error_iff_stuck {data : Bytes} {e : Error} (hheader : Header.bytes <+: data) :
    parse data = .error e ↔
      ∃ sections stop, Walk.Run data 8 sections stop ∧ Walk.Stuck data stop e := by
  rw [parse_eq_error_iff_stop hheader]
  constructor
  · intro h
    obtain ⟨stop, hrun, ⟨-, hnone⟩ | ⟨found, hstuck, hfound⟩⟩ :=
      Walk.exists_run 8 hheader.length_le
    · nomatch h.symm.trans hnone
    · obtain rfl : found = e := Option.some.inj (hfound.symm.trans h)
      exact ⟨_, stop, hrun, hstuck⟩
  · rintro ⟨sections, stop, hrun, hstuck⟩
    rw [hrun.fromPos_eq, hstuck.fromPos_eq]

/-- Cut off behind its header, an input is a module where a run ends at the cut. -/
theorem parse_take_eq_ok_iff {data : Bytes} {index : SectionIndex} {k : Nat} (hlow : 8 ≤ k)
    (hhigh : k ≤ data.length) :
    parse (data.take k) = .ok index ↔ Header.bytes <+: data ∧ ∃ sections,
      index = ⟨Span.header :: sections⟩ ∧ Walk.Run data 8 sections k := by
  have hlen : (data.take k).length = k := List.length_take_of_le hhigh
  have hheader : Header.bytes <+: data.take k ↔ Header.bytes <+: data := by
    rw [List.prefix_take_iff]
    exact and_iff_left hlow
  rw [parse_eq_ok_iff_run, hheader, hlen]
  simp only [Walk.Run.take_iff (Nat.le_refl k)]

end SectionIndex

end WasmBinary
