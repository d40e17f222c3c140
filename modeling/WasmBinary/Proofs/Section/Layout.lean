/-
  Spans side by side.

  1. **Tilings** — `Tiles start spans stop` says that the spans follow each other without a gap
     from `start` to `stop`.  From this alone: a span starts where the lengths before it end, two
     spans never overlap, all of them lie between the two ends, and the lengths add up to the
     distance of the ends.  A position between the ends lies in one span, which splits the tiling.

  2. **Layouts** — `Span.layout` is the only tiling of given names and lengths.
-/
import WasmBinary.Section.Index

namespace WasmBinary

/-- The spans lie side by side, the first at `start` and the last up to `stop`. -/
def Tiles : Nat → List Span → Nat → Prop
  | start, [], stop => start = stop
  | start, span :: spans, stop => span.offset = start ∧ Tiles (start + span.length) spans stop

namespace Tiles

/-- The lengths fill the room between the two ends.  All further arithmetic about a tiling rests on
    this one equation. -/
theorem stop_eq : ∀ {start stop : Nat} {spans : List Span}, Tiles start spans stop →
    stop = start + sumOf (spans.map (·.length))
  | _, _, [], h => h.symm
  | start, stop, span :: spans, h => by
    have := stop_eq h.2
    rw [List.map_cons, sumOf_cons]
    omega

theorem start_le {start stop : Nat} {spans : List Span} (h : Tiles start spans stop) :
    start ≤ stop := by
  have := stop_eq h
  omega

/-- A span starts behind the spans before it. -/
theorem offset_eq : ∀ {start stop : Nat} {before after : List Span} {span : Span},
    Tiles start (before ++ span :: after) stop →
    span.offset = start + sumOf (before.map (·.length))
  | _, _, [], _, _, h => h.1
  | start, stop, first :: before, after, span, h => by
    have hrest : Tiles (start + first.length) (before ++ span :: after) stop := h.2
    have := offset_eq hrest
    rw [List.map_cons, sumOf_cons]
    omega

/-- No span leaves the tiled stretch. -/
theorem within : ∀ {start stop : Nat} {spans : List Span}, Tiles start spans stop →
    ∀ span ∈ spans, start ≤ span.offset ∧ span.offset + span.length ≤ stop
  | _, _, [], _, span, hmem => nomatch hmem
  | start, stop, first :: spans, h, span, hmem => by
    obtain ⟨hfirst, hrest⟩ := h
    rcases List.mem_cons.mp hmem with rfl | hmem
    · have := stop_eq hrest
      omega
    · have := within hrest span hmem
      omega

/-- An earlier span ends before a later one starts. -/
theorem disjoint : ∀ {start stop : Nat} {spans : List Span}, Tiles start spans stop →
    spans.Pairwise fun a b => a.offset + a.length ≤ b.offset
  | _, _, [], _ => List.Pairwise.nil
  | start, stop, first :: spans, h => by
    obtain ⟨hfirst, hrest⟩ := h
    refine List.Pairwise.cons (fun span hmem => ?_) (disjoint hrest)
    have := (within hrest span hmem).1
    omega

/-- Where something is tiled, the last span reaches the end. -/
theorem exists_last : ∀ {start stop : Nat} {spans : List Span}, Tiles start spans stop →
    spans ≠ [] → ∃ span ∈ spans, span.offset + span.length = stop
  | _, _, [], _, hne => absurd rfl hne
  | start, stop, [span], h, _ => by
    have hstop : start + span.length = stop := h.2
    exact ⟨span, List.mem_cons_self, h.1 ▸ hstop⟩
  | _, _, _ :: next :: rest, h, _ => by
    obtain ⟨span, hmem, hstop⟩ := exists_last h.2 (List.cons_ne_nil next rest)
    exact ⟨span, List.mem_cons_of_mem _ hmem, hstop⟩

/-- Every position of the tiled stretch lies in a span, which splits the tiling: the spans before it
    tile the stretch up to it, and those after it the rest. -/
theorem exists_split : ∀ {start stop : Nat} {spans : List Span}, Tiles start spans stop →
    ∀ {k : Nat}, start ≤ k → k < stop → ∃ before span after, spans = before ++ span :: after ∧
      Tiles start before span.offset ∧ Tiles (span.offset + span.length) after stop ∧
      span.offset ≤ k ∧ k < span.offset + span.length
  | start, stop, [], h, k, hlow, hhigh => by
    have : start = stop := h
    omega
  | start, stop, first :: spans, ⟨hfirst, hrest⟩, k, hlow, hhigh => by
    -- the position is in the first span, or further on
    rcases Nat.lt_or_ge k (start + first.length) with hk | hk
    · exact ⟨[], first, spans, rfl, hfirst.symm, hfirst ▸ hrest, by omega, by omega⟩
    · obtain ⟨before, span, after, rfl, hbefore, hafter, hin⟩ := exists_split hrest hk hhigh
      exact ⟨first :: before, span, after, rfl, ⟨hfirst, hbefore⟩, hafter, hin⟩

/-- Of the positions in a span that has others before it, only its start is the end of a span. -/
theorem exists_end_iff {start stop k : Nat} {before after : List Span} {span : Span}
    (hbefore : Tiles start before span.offset)
    (hafter : Tiles (span.offset + span.length) after stop) (hne : before ≠ [])
    (hlow : span.offset ≤ k) (hhigh : k < span.offset + span.length) :
    (∃ s ∈ before ++ span :: after, s.offset + s.length = k) ↔ span.offset = k := by
  constructor
  · rintro ⟨s, hmem, hend⟩
    rcases List.mem_append.mp hmem with hmem | hmem
    · have := (hbefore.within s hmem).2
      omega
    · rcases List.mem_cons.mp hmem with rfl | hmem
      · omega
      · have := (hafter.within s hmem).1
        omega
  · rintro rfl
    obtain ⟨s, hmem, hend⟩ := hbefore.exists_last hne
    exact ⟨s, List.mem_append_left _ hmem, hend⟩

/-- Of two adjoining tilings, the spans of the first are those that end where it does or before.
    Spans of no length at the seam would end there too, so the second is not to have any. -/
theorem filter_end_le {start middle stop : Nat} {before after : List Span}
    (hbefore : Tiles start before middle) (hafter : Tiles middle after stop)
    (hpos : ∀ span ∈ after, 0 < span.length) :
    (before ++ after).filter (fun span => span.offset + span.length ≤ middle) = before := by
  have hin : before.filter (fun span => span.offset + span.length ≤ middle) = before := by
    refine List.filter_eq_self.mpr fun span hmem => decide_eq_true ?_
    exact (hbefore.within span hmem).2
  have hout : after.filter (fun span => span.offset + span.length ≤ middle) = [] := by
    refine List.filter_eq_nil_iff.mpr fun span hmem hle => ?_
    have hstart := (hafter.within span hmem).1
    have hlength := hpos span hmem
    have hend := of_decide_eq_true hle
    omega
  rw [List.filter_append, hin, hout, List.append_nil]

end Tiles

/-- Parts of given names and lengths, laid side by side. -/
def Span.layout (start : Nat) : List (SectionName × Nat) → List Span
  | [] => []
  | part :: parts => ⟨part.1, start, part.2⟩ :: layout (start + part.2) parts

namespace Span

/-- What is told by name and length alone is told of the parts as of the spans that they are laid
    out to. -/
theorem map_layout {α : Type} (f : SectionName → Nat → α) (start : Nat)
    (parts : List (SectionName × Nat)) :
    (layout start parts).map (fun span => f span.name span.length)
      = parts.map fun part => f part.1 part.2 := by
  induction parts generalizing start with
  | nil => rfl
  | cons part parts ih => rw [layout, List.map_cons, List.map_cons, ih]

/-- Parts laid behind others start where the lengths of those end. -/
theorem layout_append (start : Nat) (parts parts' : List (SectionName × Nat)) :
    layout start (parts ++ parts')
      = layout start parts ++ layout (start + sumOf (parts.map (·.2))) parts' := by
  induction parts generalizing start with
  | nil => rfl
  | cons part parts ih =>
    rw [List.cons_append, layout, ih, List.map_cons, sumOf_cons, Nat.add_assoc]
    rfl

/-- Laid out parts tile the stretch that starts where the first of them is put and is as long as all
    of them together. -/
theorem tiles_layout (start : Nat) (parts : List (SectionName × Nat)) :
    Tiles start (layout start parts) (start + sumOf (parts.map (·.2))) := by
  induction parts generalizing start with
  | nil => rfl
  | cons part parts ih =>
    refine ⟨rfl, ?_⟩
    rw [List.map_cons, sumOf_cons, ← Nat.add_assoc]
    exact ih (start + part.2)

end Span

end WasmBinary
