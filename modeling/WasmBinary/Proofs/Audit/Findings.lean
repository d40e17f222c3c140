/-
  Which findings pass.

  Every family of findings passes under a condition on the bytes, the index and the recorded sizes
  that does not mention findings any more.  The fixed samples always pass, and so do the magic
  number and the version wherever there is an index at all; what is left to the input are the
  sizes, the first body and the oracle.
-/
import WasmBinary.Audit.Report
import WasmBinary.Proofs.Section.Lookup
import WasmBinary.Proofs.Section.Walk

namespace WasmBinary

namespace Report

/-- An objection is there exactly if the oracle's verdict objects. -/
theorem objection?_isSome (r : Report) : r.objection?.isSome = r.oracle.any Verdict.objects := by
  rw [objection?]
  cases r.oracle with
  | none => rfl
  | some verdict => exact verdict.isSome_finding?

/-- A report passes when all findings do and there is no objection. -/
theorem passed_iff_findings {r : Report} :
    r.passed = true ↔ (∀ f ∈ r.findings, f.passed = true) ∧ r.objection? = none := by
  rw [passed, ← objection?_isSome, Bool.and_eq_true, List.isEmpty_iff, failures,
    List.filter_eq_nil_iff]
  simp only [Bool.not_eq_true', Bool.not_eq_false, Option.isSome_eq_false_iff,
    Option.isNone_iff_eq_none]

end Report

/-- An oracle objects to nothing but other bytes. -/
theorem Verdict.finding?_ofAnswer_eq_none {ours : Bytes} {answer : OracleAnswer} :
    (ofAnswer ours answer).finding? = none ↔ (∃ u, answer = .error u) ∨ answer = .ok ours := by
  cases answer with
  | error u => simp [ofAnswer, finding?]
  | ok reference =>
    by_cases h : reference = ours
    · simp [ofAnswer, finding?, h]
    · simp [ofAnswer, finding?, h]

/-- There is an objection only where an oracle was asked and gave other bytes. -/
theorem Report.objection?_eq_none {findings : List Finding} {ours : Bytes}
    {answer : Option OracleAnswer} :
    (⟨findings, answer.map (Verdict.ofAnswer ours)⟩ : Report).objection? = none ↔
      answer = none ∨ (∃ u, answer = some (.error u)) ∨ answer = some (.ok ours) := by
  cases answer with
  | none => simp [objection?]
  | some answer =>
    show (Verdict.ofAnswer ours answer).finding? = none ↔ _
    rw [Verdict.finding?_ofAnswer_eq_none]
    simp

namespace Audit

/-! ## Numbers -/

/-- The samples are encoded as they should be. -/
theorem numberFindings_pass : ∀ f ∈ numberFindings, f.passed = true := by
  decide +kernel

/-! ## Sizes -/

/-- The length that an index gives for a name: nothing found counts as zero bytes. -/
def foundLength (index : SectionIndex) (text : String) : Nat :=
  ((index.get? text).map (·.length)).getD 0

/-- The finding about a recorded part compares its length with the one that is found under its
    name. -/
theorem recordedFinding_passed {index : SectionIndex} {text : String} {length : Nat} :
    (recordedFinding index text length).passed = true ↔ foundLength index text = length := by
  rw [Finding.passed_iff]
  show Observed.length length = .length (foundLength index text) ↔ _
  rw [Observed.length.injEq]
  exact eq_comm

/-- A span of a name that was not recorded could only pass by being empty. -/
theorem strayFinding_passed {span : Span} :
    (strayFinding span).passed = true ↔ span.length = 0 := by
  rw [Finding.passed_iff]
  show Observed.length 0 = .length span.length ↔ _
  rw [Observed.length.injEq]
  exact eq_comm

/-- The finding about the total compares two lengths. -/
theorem totalFinding_passed {actual total : Nat} :
    (⟨.totalSize, "total", none, .length actual, .length total⟩ : Finding).passed = true ↔
      actual = total := by
  rw [Finding.passed_iff, Observed.length.injEq]

/-- The size findings pass when every recorded length is the one found under its name, every span
    of a name that was not recorded is empty, and the lengths recorded are as many as there are
    bytes. -/
theorem sizeFindings_pass_iff {sizes : SectionSizes} {index : SectionIndex} {actual : Nat} :
    (∀ f ∈ sizeFindings sizes index actual, f.passed = true) ↔
      (∀ entry ∈ sizes.entries, foundLength index entry.1.text = entry.2) ∧
      (∀ span ∈ index.spans, span.name.text ∉ sizes.entries.map (fun entry => entry.1.text) →
        span.length = 0) ∧
      actual = sizes.total := by
  have htexts : (sizes.entries.map fun entry => (entry.1.text, entry.2)).map (·.1)
      = sizes.entries.map fun entry => entry.1.text := List.map_map ..
  rw [sizeFindings, htexts]
  -- one clause for each kind of finding: recorded parts, stray spans, the total
  simp only [List.forall_mem_append, List.forall_mem_map, List.forall_mem_singleton,
    recordedFinding_passed, strayFinding_passed, totalFinding_passed, List.mem_filter,
    Bool.not_eq_true', List.contains_eq_mem, decide_eq_false_iff_not, and_imp, and_assoc]

/-! ## Bytes -/

/-- The finding about a region compares the bytes there, or none where there is no region, with the
    expected ones. -/
theorem regionFinding_passed {data expected : Bytes} {subject : String} {region : Option Region} :
    (regionFinding data subject region expected).passed = true ↔
      (region.map (·.of data)).getD [] = expected := by
  rw [Finding.passed_iff]
  show Observed.bytes expected = .bytes ((region.map (·.of data)).getD []) ↔ _
  rw [Observed.bytes.injEq]
  exact eq_comm

/-- Behind a header, the byte findings pass when the first body is the expected one, or is missing
    and expected to be: the header settles the other two, about the magic number and the version. -/
theorem byteFindings_pass_iff {rest expected : Bytes} {index : SectionIndex} :
    (∀ f ∈ byteFindings (Header.bytes ++ rest) index expected, f.passed = true) ↔
      ((index.firstBody? (Header.bytes ++ rest)).map (·.of (Header.bytes ++ rest))).getD []
        = expected := by
  have hmagic : Region.of ⟨0, Header.magic.length⟩ (Header.bytes ++ rest) = Header.magic := rfl
  have hversion : Region.of ⟨Header.magic.length, Header.version.length⟩ (Header.bytes ++ rest)
      = Header.version := rfl
  simp only [byteFindings, List.forall_mem_cons, List.not_mem_nil, false_implies, implies_true,
    and_true, regionFinding_passed, Option.map_some, Option.getD_some, hmagic, hversion, true_and]

/-- A body that is expected to have bytes has to be there. -/
theorem byteFindings_pass_iff_of_ne_nil {rest expected : Bytes} {index : SectionIndex}
    (hne : expected ≠ []) :
    (∀ f ∈ byteFindings (Header.bytes ++ rest) index expected, f.passed = true) ↔
      ∃ region, index.firstBody? (Header.bytes ++ rest) = some region ∧
        region.of (Header.bytes ++ rest) = expected := by
  rw [byteFindings_pass_iff]
  cases index.firstBody? (Header.bytes ++ rest) with
  | none => simp [hne.symm]
  | some region => simp

/-! ## Audits -/

/-- An audit fails where there is no index, and otherwise reports all findings. -/
theorem audit_eq (encoded : Encoded) (expected : Bytes) (answer : Option OracleAnswer) :
    audit encoded expected answer =
      match SectionIndex.parse encoded.bytes with
      | .error e => .error e
      | .ok index => .ok ⟨numberFindings
          ++ sizeFindings encoded.sizes index encoded.bytes.length
          ++ byteFindings encoded.bytes index expected,
          answer.map (Verdict.ofAnswer encoded.bytes)⟩ := by
  rw [audit, inspect]
  cases SectionIndex.parse encoded.bytes with
  | error e => rfl
  | ok index => rfl

/-- The report of an audit holds all findings, and the verdict on the answer. -/
theorem exists_of_audit {encoded : Encoded} {expected : Bytes} {answer : Option OracleAnswer}
    {r : Report} (h : audit encoded expected answer = .ok r) :
    ∃ index, SectionIndex.parse encoded.bytes = .ok index ∧
      r.findings = numberFindings ++ sizeFindings encoded.sizes index encoded.bytes.length
        ++ byteFindings encoded.bytes index expected ∧
      r.oracle = answer.map (Verdict.ofAnswer encoded.bytes) := by
  rw [audit_eq] at h
  cases hparse : SectionIndex.parse encoded.bytes with
  | error e =>
    rw [hparse] at h
    nomatch h
  | ok index =>
    rw [hparse] at h
    obtain rfl := Except.ok.inj h
    exact ⟨index, rfl, rfl, rfl⟩

end Audit

end WasmBinary
