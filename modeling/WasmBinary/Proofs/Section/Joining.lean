/-
  Modules joined end to end.

  The walk reads a section from its own bytes on, and what it tells of it depends on where the
  section stands by the offset alone.  So sections that are put behind a module give the spans that
  they give behind a bare header, moved to where they stand now, and are refused for the same
  reason.

  1. **Moved** — `moved` adds a distance to every offset that a span, an error or a walk tells.  A
     walk that starts that much further on tells the same otherwise (`Walk.sections_moved`).

  2. **Joined** — the walk over the joined bytes is the run over the module, and behind it the moved
     walk over the rest (`Walk.fromPos_join`).
-/
import WasmBinary.Proofs.Section.Steps

namespace WasmBinary

/-! ## Moved -/

/-- The same part, further on by `d` bytes.  What it is called and how long it is do not hang on
    where it stands. -/
def Span.moved (d : Nat) (span : Span) : Span :=
  ⟨span.name, span.offset + d, span.length⟩

/-- The same error about a section further on by `d` bytes.  What is told of a header has no
    position, and stays. -/
def Error.moved (d : Nat) : Error → Error
  | .number offset fault => .number (offset + d) fault
  | .truncatedSection offset declared available => .truncatedSection (offset + d) declared available
  | e => e

namespace Walk

/-- The same walk, further on by `d` bytes. -/
def moved (d : Nat) (walk : Walk) : Walk :=
  ⟨walk.spans.map (Span.moved d), walk.stop.map (Error.moved d)⟩

/-- A walk that starts further on finds the same, further on.  The walk is handed what is left of
    the input and hands the offset on, but compares it with nothing, so that the two walks take the
    same turns. -/
theorem sections_moved (d offset available : Nat) (data : Bytes) :
    sections (offset + d) available data = (sections offset available data).moved d := by
  fun_induction sections offset available data with
  | case1 => rw [sections]; rfl
  | case2 offset available id rest fault hread =>
    rw [sections]
    simp only [hread]
    rw [Nat.add_right_comm]
    rfl
  | case3 offset available id rest size hread declared hshort =>
    rw [sections]
    simp only [hread]
    exact if_pos hshort
  | case4 offset available id rest size hread declared hfits after ih =>
    rw [sections]
    simp only [hread]
    refine (if_neg hfits).trans ?_
    rw [Nat.add_right_comm, ih]
    rfl

/-- What is walked over behind one front is walked over behind another one. -/
theorem fromPos_moved {front front' : Bytes} {d : Nat} (rest : Bytes)
    (h : front'.length = front.length + d) :
    fromPos (front' ++ rest) front'.length = (fromPos (front ++ rest) front.length).moved d := by
  rw [fromPos, fromPos, List.drop_left, List.drop_left, List.length_append, List.length_append,
    Nat.add_sub_cancel_left, Nat.add_sub_cancel_left, h, sections_moved]

/-- Behind a run over all of the front the walk goes on as it does behind a bare header. -/
theorem fromPos_join {front : Bytes} {spans : List Span} (rest : Bytes)
    (hrun : Run front 8 spans front.length) :
    fromPos (front ++ rest) 8
      = ⟨spans ++ ((fromPos (Header.bytes ++ rest) 8).moved (front.length - 8)).spans,
        ((fromPos (Header.bytes ++ rest) 8).moved (front.length - 8)).stop⟩ := by
  have hlength : front.length = Header.bytes.length + (front.length - 8) :=
    (Nat.add_sub_cancel' hrun.tiles.start_le).symm
  rw [(hrun.append rest).fromPos_eq, fromPos_moved rest hlength]
  rfl

end Walk

/-! ## Joined -/

namespace SectionIndex

/-- **Sections that are put behind a module are told as they are behind a bare header, at their new
    place.**  Where they make a module with a header, the joined bytes are a module with the spans
    of both; where they do not, the joined bytes are refused for the same reason.  All that differs
    are the offsets, by as many bytes as the module has behind its header. -/
theorem parse_joined (front rest : Bytes) (index : SectionIndex) (h : parse front = .ok index) :
    (∀ index', parse (Header.magic ++ Header.version ++ rest) = .ok index' →
      ∃ sections, index'.spans = ⟨.header, 0, 8⟩ :: sections ∧
        parse (front ++ rest)
          = .ok ⟨index.spans ++ sections.map (Span.moved (front.length - 8))⟩) ∧
    (∀ e, parse (Header.magic ++ Header.version ++ rest) = .error e →
      (∃ pos fault, e = .number pos fault ∧
        parse (front ++ rest) = .error (.number (pos + (front.length - 8)) fault)) ∨
      ∃ offset declared available, e = .truncatedSection offset declared available ∧
        parse (front ++ rest) = .error
          (.truncatedSection (offset + (front.length - 8)) declared available)) := by
  obtain ⟨hheader, spans, rfl, hrun⟩ := parse_eq_ok_iff_run.mp h
  have hwalk := Walk.fromPos_join rest hrun
  have hheader' : Header.bytes <+: front ++ rest := hheader.trans (List.prefix_append _ _)
  refine ⟨fun index' hok => ?_, fun e herror => ?_⟩
  · obtain ⟨-, hstop, rfl⟩ := parse_eq_ok_iff.mp hok
    have hstop : (Walk.fromPos (Header.bytes ++ rest) 8).stop = none := hstop
    obtain ⟨behind, hbehind⟩ := hheader'
    refine ⟨_, rfl, parse_eq_ok_iff.mpr ⟨⟨behind, hbehind.symm⟩, ?_, ?_⟩⟩
    · rw [Header.length_eq, hwalk, Walk.moved, hstop]
      rfl
    · rw [Header.length_eq, hwalk]
      rfl
  · have hbare : Header.bytes <+: Header.bytes ++ rest := List.prefix_append _ _
    have hjoined : parse (front ++ rest) = .error (e.moved (front.length - 8)) := by
      rw [parse_eq_error_iff_stop hheader', hwalk, Walk.moved,
        (parse_eq_error_iff_stop hbare).mp herror]
      rfl
    -- behind a header only these two errors come up, and both have a position
    obtain ⟨-, stop, -, hstuck⟩ := (parse_eq_error_iff_stuck hbare).mp herror
    cases hstuck with
    | fault _ _ => exact Or.inl ⟨_, _, rfl, hjoined⟩
    | short _ _ _ => exact Or.inr ⟨_, _, _, rfl, hjoined⟩

/-- A section behind a module, and one that is cut short. -/
theorem parse_joined_memory :
    parse (Header.bytes ++ [0x00, 0x01, 0x2A]) = .ok ⟨[⟨.header, 0, 8⟩, ⟨.unknown 0, 8, 3⟩]⟩ ∧
    parse (Header.bytes ++ [0x00, 0x01, 0x2A] ++ [0x05, 0x01, 0x00])
      = .ok ⟨[⟨.header, 0, 8⟩, ⟨.unknown 0, 8, 3⟩, ⟨.known .memories, 11, 3⟩]⟩ ∧
    parse (Header.bytes ++ [0x00, 0x01, 0x2A] ++ [0x05, 0x02, 0x00])
      = .error (.truncatedSection 11 4 3) := by
  have hfront : parse (Header.bytes ++ [0x00, 0x01, 0x2A])
      = .ok ⟨[⟨.header, 0, 8⟩, ⟨.unknown 0, 8, 3⟩]⟩ := by
    cbv
  have hmemory : parse (Header.magic ++ Header.version ++ [0x05, 0x01, 0x00])
      = .ok ⟨[⟨.header, 0, 8⟩, ⟨.known .memories, 8, 3⟩]⟩ := by
    cbv
  have hshort : parse (Header.magic ++ Header.version ++ [0x05, 0x02, 0x00])
      = .error (.truncatedSection 8 4 3) := by
    cbv
  refine ⟨hfront, ?_, ?_⟩
  · obtain ⟨sections, hsections, hjoined⟩ := (parse_joined _ _ _ hfront).1 _ hmemory
    obtain rfl := (List.cons.inj hsections).2
    exact hjoined
  · obtain ⟨_, _, he, -⟩ | ⟨_, _, _, he, hjoined⟩ := (parse_joined _ _ _ hfront).2 _ hshort
    · cases he
    · obtain ⟨rfl, rfl, rfl⟩ := Error.truncatedSection.inj he
      exact hjoined

end SectionIndex

end WasmBinary
