/-
  What a passing audit certifies.

  The bytes under audit are arbitrary; only the sizes come from a module.  A lookup sees the last
  span of a name, so a second span of that name is invisible to every single comparison.  It is
  caught by counting:

  1. every recorded pair of name and length is a pair of the index, since lengths that are recorded
     are not zero (`recorded_subset`), and no pair is recorded twice;
  2. the recorded lengths add up to the number of bytes, and so do the lengths of the spans, which
     tile the input;
  3. spans are not empty, so no span can be left over (`perm_of_subset_of_sum`).

  The converse needs no counting: where the pairs are the same, each name is found once, with its
  length.  The scan for stray spans then finds nothing; for the direction above it is not needed.
-/
import Mathlib.Data.List.Perm.Subperm
import WasmBinary.Proofs.Audit.Findings
import WasmBinary.Proofs.Module.Agreement

namespace WasmBinary

/-! ## Lists that add up to the same -/

/-- The order of numbers does not matter to their sum. -/
theorem sumOf_perm {xs ys : List Nat} (h : xs.Perm ys) : sumOf xs = sumOf ys := by
  induction h with
  | nil => rfl
  | cons x _ ih => rw [sumOf_cons, sumOf_cons, ih]
  | swap x y l =>
    rw [sumOf_cons, sumOf_cons, sumOf_cons, sumOf_cons]
    omega
  | trans _ _ ih₁ ih₂ => exact ih₁.trans ih₂

/-- Numbers that are left out do not make a sum larger; where none of them is zero, a sum that is
    no smaller leaves none out. -/
theorem sumOf_sublist {α : Type} {f : α → Nat} {xs ys : List α} (h : xs.Sublist ys) :
    sumOf (xs.map f) ≤ sumOf (ys.map f) ∧
      ((∀ y ∈ ys, 0 < f y) → sumOf (xs.map f) = sumOf (ys.map f) → xs = ys) := by
  induction h with
  | slnil => exact ⟨Nat.le_refl 0, fun _ _ => rfl⟩
  | cons y _ ih =>
    -- `y` is left out, which a sum of numbers above zero would show
    rw [List.map_cons, sumOf_cons]
    refine ⟨Nat.le_trans ih.1 (Nat.le_add_left _ _), fun hpos hsum => ?_⟩
    have hy := hpos y List.mem_cons_self
    have := ih.1
    omega
  | cons_cons y _ ih =>
    rw [List.map_cons, List.map_cons, sumOf_cons, sumOf_cons]
    refine ⟨Nat.add_le_add_left ih.1 _, fun hpos hsum => ?_⟩
    rw [ih.2 (fun x hx => hpos x (List.mem_cons_of_mem y hx)) (Nat.add_left_cancel hsum)]

/-- Different items, all of them in a list of no larger sum: they are that list, in some order.
    They are a part of it in some order, and what is left over would add to its sum. -/
theorem perm_of_subset_of_sum {α : Type} {f : α → Nat} {xs ys : List α} (hnodup : xs.Nodup)
    (hsub : xs ⊆ ys) (hpos : ∀ y ∈ ys, 0 < f y)
    (hsum : sumOf (xs.map f) = sumOf (ys.map f)) : ys.Perm xs := by
  obtain ⟨zs, hperm, hsublist⟩ := hnodup.subperm hsub
  have hzs : sumOf (zs.map f) = sumOf (ys.map f) := by
    rw [sumOf_perm (hperm.map f), hsum]
  rw [← (sumOf_sublist hsublist).2 hpos hzs]
  exact hperm

/-! ## Spans and sizes as pairs -/

/-- What an index tells of its spans apart from where they lie. -/
def SectionIndex.pairs (index : SectionIndex) : List (String × Nat) :=
  index.spans.map fun span => (span.name.text, span.length)

/-- The recorded names and lengths. -/
def SectionSizes.pairs (sizes : SectionSizes) : List (String × Nat) :=
  sizes.entries.map fun entry => (entry.1.text, entry.2)

namespace SectionIndex

/-- The names of the pairs are those of the spans. -/
theorem map_fst_pairs (index : SectionIndex) :
    index.pairs.map (·.1) = index.spans.map fun span => span.name.text := by
  rw [pairs, List.map_map]
  rfl

/-- The lengths of the spans add up to the number of bytes, because the spans tile them. -/
theorem sum_pairs {data : Bytes} {index : SectionIndex} (h : parse data = .ok index) :
    sumOf (index.pairs.map (·.2)) = data.length := by
  rw [← total_of_parse h, pairs, List.map_map]
  rfl

/-- No span is empty: even a section without content has a number and a length in front. -/
theorem pairs_pos {data : Bytes} {index : SectionIndex} (h : parse data = .ok index) :
    ∀ pair ∈ index.pairs, 0 < pair.2 := by
  intro pair hpair
  obtain ⟨span, hspan, rfl⟩ := List.mem_map.mp hpair
  exact Nat.lt_of_lt_of_le Nat.zero_lt_two (two_le_length_of_parse h span hspan)

end SectionIndex

namespace SectionSizes

/-- The recorded lengths add up to the recorded total. -/
theorem sum_pairs (sizes : SectionSizes) : sumOf (sizes.pairs.map (·.2)) = sizes.total := by
  rw [pairs, List.map_map]
  rfl

end SectionSizes

namespace Module

/-- No name is recorded twice, as the parts that are written have different names. -/
theorem nodup_fst_pairs (m : Module) : (m.write.sizes.pairs.map (·.1)).Nodup := by
  rw [SectionSizes.pairs, List.map_map]
  exact nodup_text_entries m

/-- Nothing that is recorded is empty. -/
theorem entries_pos (m : Module) : ∀ entry ∈ m.write.sizes.entries, 0 < entry.2 := by
  intro entry hentry
  rw [entries_write] at hentry
  rcases List.mem_cons.mp hentry with rfl | hentry
  · decide
  · obtain ⟨s, -, rfl⟩ := List.mem_map.mp hentry
    exact Nat.succ_pos _

end Module

/-! ## The certificate -/

namespace Audit

/-- A recorded length that is found under its name belongs to a span. -/
theorem recorded_subset {m : Module} {index : SectionIndex}
    (h : ∀ entry ∈ m.write.sizes.entries, foundLength index entry.1.text = entry.2) :
    m.write.sizes.pairs ⊆ index.pairs := by
  intro pair hpair
  obtain ⟨entry, hentry, rfl⟩ := List.mem_map.mp hpair
  have hfound := h entry hentry
  have hpos := m.entries_pos entry hentry
  cases hget : index.get? entry.1.text with
  | none =>
    rw [foundLength, hget] at hfound
    exact absurd hfound (Nat.ne_of_lt hpos)
  | some span =>
    rw [foundLength, hget] at hfound
    obtain ⟨hmem, htext⟩ := SectionIndex.mem_of_get? hget
    refine List.mem_map.mpr ⟨span, hmem, ?_⟩
    exact Prod.ext htext hfound

/-- Where the spans are the recorded parts, no name occurs twice. -/
theorem nodup_text_of_perm {m : Module} {index : SectionIndex}
    (h : index.pairs.Perm m.write.sizes.pairs) :
    (index.spans.map fun span => span.name.text).Nodup := by
  rw [← SectionIndex.map_fst_pairs]
  exact (h.map _).nodup_iff.mpr m.nodup_fst_pairs

/-- The size findings about any bytes that have an index pass exactly when the spans are the
    recorded ones in some order. -/
theorem sizeFindings_pass_iff_perm {m : Module} {data : Bytes} {index : SectionIndex}
    (hparse : SectionIndex.parse data = .ok index) :
    (∀ f ∈ sizeFindings m.write.sizes index data.length, f.passed = true) ↔
      index.pairs.Perm m.write.sizes.pairs := by
  rw [sizeFindings_pass_iff]
  constructor
  · -- by counting; that no span is stray is not needed
    rintro ⟨hfound, -, htotal⟩
    refine perm_of_subset_of_sum m.nodup_fst_pairs.of_map (recorded_subset hfound)
      (SectionIndex.pairs_pos hparse) ?_
    rw [SectionSizes.sum_pairs, ← htotal, SectionIndex.sum_pairs hparse]
  · intro hperm
    have hnodup := nodup_text_of_perm hperm
    refine ⟨fun entry hentry => ?_, fun span hspan hstray => ?_, ?_⟩
    · have hpair : (entry.1.text, entry.2) ∈ index.pairs :=
        hperm.mem_iff.mpr (List.mem_map.mpr ⟨entry, hentry, rfl⟩)
      obtain ⟨span, hspan, heq⟩ := List.mem_map.mp hpair
      obtain ⟨htext, hlength⟩ := Prod.mk.inj heq
      rw [foundLength, ← htext, SectionIndex.get?_of_mem hnodup hspan]
      exact hlength
    · -- a span of a name that was not recorded is no recorded pair
      have hpair : (span.name.text, span.length) ∈ m.write.sizes.pairs :=
        hperm.mem_iff.mp (List.mem_map.mpr ⟨span, hspan, rfl⟩)
      obtain ⟨entry, hentry, heq⟩ := List.mem_map.mp hpair
      exact absurd (List.mem_map.mpr ⟨entry, hentry, (Prod.mk.inj heq).1⟩) hstray
    · rw [← SectionSizes.sum_pairs, ← SectionIndex.sum_pairs hparse]
      exact sumOf_perm (hperm.map _)

/-- Report of an audit of bytes that have an index. -/
theorem audit_of_parse {data : Bytes} {index : SectionIndex}
    (h : SectionIndex.parse data = .ok index) (sizes : SectionSizes) (expected : Bytes)
    (answer : Option OracleAnswer) :
    audit ⟨data, sizes⟩ expected answer = .ok ⟨numberFindings
      ++ sizeFindings sizes index data.length ++ byteFindings data index expected,
      answer.map (Verdict.ofAnswer data)⟩ := by
  rw [audit_eq]
  simp only [h]

/-- The three parts of a verdict: sizes, first body, oracle. -/
theorem report_passed_iff {m : Module} {data expected : Bytes} {answer : Option OracleAnswer}
    {index : SectionIndex} (hne : expected ≠ []) (hparse : SectionIndex.parse data = .ok index) :
    (⟨numberFindings ++ sizeFindings m.write.sizes index data.length
        ++ byteFindings data index expected,
      answer.map (Verdict.ofAnswer data)⟩ : Report).passed = true ↔
      index.pairs.Perm m.write.sizes.pairs ∧
      (∃ region, index.firstBody? data = some region ∧
        region.offset + region.length ≤ data.length ∧ region.of data = expected) ∧
      (answer = none ∨ (∃ u, answer = some (.error u)) ∨ answer = some (.ok data)) := by
  obtain ⟨⟨rest, hrest⟩, -, -⟩ := SectionIndex.parse_eq_ok_iff.mp hparse
  -- the findings about bytes all pass if the last of them does, which is that about the first body
  have hbytes : (∀ f ∈ byteFindings data index expected, f.passed = true) ↔
      ∃ region, index.firstBody? data = some region ∧
        region.offset + region.length ≤ data.length ∧ region.of data = expected := by
    rw [hrest, byteFindings_pass_iff_of_ne_nil hne]
    constructor
    · rintro ⟨region, hregion, hof⟩
      exact ⟨region, hregion, SectionIndex.firstBody?_within hregion, hof⟩
    · rintro ⟨region, hregion, -, hof⟩
      exact ⟨region, hregion, hof⟩
  rw [Report.passed_iff_findings, Report.objection?_eq_none, List.forall_mem_append,
    List.forall_mem_append, sizeFindings_pass_iff_perm hparse, hbytes]
  constructor
  · rintro ⟨⟨⟨-, hperm⟩, hbody⟩, hanswer⟩
    exact ⟨hperm, hbody, hanswer⟩
  · rintro ⟨hperm, hbody, hanswer⟩
    exact ⟨⟨⟨numberFindings_pass, hperm⟩, hbody⟩, hanswer⟩

/-- **What a passing audit certifies.**  The audit of any bytes against the sizes of a module fails
    only where there is no index.  Otherwise its report passes exactly when the spans are the
    recorded parts, each once, the first body is the expected one, and no oracle gave other bytes.
    So a part that occurs twice never passes. -/
theorem audit_passes_iff (m : Module) (data expected : Bytes) (answer : Option OracleAnswer)
    (hne : expected ≠ []) :
    (∀ e, audit ⟨data, m.write.sizes⟩ expected answer = .error e ↔
      SectionIndex.parse data = .error e) ∧
    (∀ index, SectionIndex.parse data = .ok index →
      ∃ report, audit ⟨data, m.write.sizes⟩ expected answer = .ok report ∧
        (report.passed = true ↔
          (index.spans.map fun span => (span.name.text, span.length)).Perm
            (m.write.sizes.entries.map fun entry => (entry.1.text, entry.2)) ∧
          (∃ region, index.firstBody? data = some region ∧
            region.offset + region.length ≤ data.length ∧ region.of data = expected) ∧
          (answer = none ∨ (∃ u, answer = some (.error u)) ∨ answer = some (.ok data))) ∧
        (report.passed = true → (index.spans.map (·.name)).Nodup ∧
          data.length = m.write.sizes.total)) := by
  constructor
  · intro e
    rw [audit_eq]
    cases SectionIndex.parse data with
    | error e' => simp
    | ok index => simp
  · intro index hparse
    refine ⟨_, audit_of_parse hparse m.write.sizes expected answer,
      report_passed_iff hne hparse, fun h => ?_⟩
    have hperm : index.pairs.Perm m.write.sizes.pairs := ((report_passed_iff hne hparse).mp h).1
    constructor
    · -- different texts are those of different names
      have htexts : ((index.spans.map (·.name)).map SectionName.text).Nodup := by
        rw [List.map_map]
        exact nodup_text_of_perm hperm
      exact htexts.of_map
    · rw [← SectionSizes.sum_pairs, ← SectionIndex.sum_pairs hparse]
      exact sumOf_perm (hperm.map _)

/-- The type section of a module, twice: the last one has the recorded length. -/
theorem audit_repeated_section :
    ([0x0B] : Bytes) ≠ [] ∧
    ∃ report, audit ⟨Header.bytes ++ [1, 4, 1, 0x60, 0, 0] ++ [1, 4, 1, 0x60, 0, 0],
        (Module.mk [{}] [] [] [] []).write.sizes⟩ [0x0B] none = .ok report ∧
      report.passed = false := by
  have hparse : SectionIndex.parse
      (Header.bytes ++ [1, 4, 1, 0x60, 0, 0] ++ [1, 4, 1, 0x60, 0, 0])
      = .ok ⟨[⟨.header, 0, 8⟩, ⟨.known .types, 8, 6⟩, ⟨.known .types, 14, 6⟩]⟩ := by
    decide +kernel
  obtain ⟨report, hreport, -, honce⟩ :=
    (audit_passes_iff (Module.mk [{}] [] [] [] []) _ [0x0B] none (by decide)).2 _ hparse
  -- a report that passes has no name twice
  refine ⟨by decide, report, hreport, Bool.eq_false_iff.mpr fun hpassed => ?_⟩
  exact absurd (honce hpassed).1 (by decide)

end Audit

end WasmBinary
