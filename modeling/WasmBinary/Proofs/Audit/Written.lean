/-
  The audit of a module that was just written raises no false alarm.

  1. **The first body** — the code section of written bytes is an id and three shortest numbers with
     the body of the first function behind them, so the body is found where it was written
     (`firstBody?_write`).  Without a function there is no code section, and no body.

  2. **The findings** — the index of written bytes is the record of their sizes, so every size is
     found as recorded, no span is stray, and the magic number and the version are in place.  All
     that is left to fail is the last finding: the first body against the expected one.

  3. **The verdict** — as long as no oracle gives other bytes, the report passes when that one
     finding does (`audit_write`).
-/
import WasmBinary.Proofs.Audit.Certificate

namespace WasmBinary

/-! ## The first body -/

namespace Module

/-- The code section of a module with functions, down to the body of the first. -/
theorem encode_codeSection (f : Func) (rest : List Func) :
    Section.encode ⟨.code, Vec.ofItems ((f :: rest).map Func.encodeEntry)⟩
      = SectionKind.code.id ::
        (Leb128.encodeUnsigned (Vec.ofItems ((f :: rest).map Func.encodeEntry)).length ++
        (Leb128.encodeUnsigned (f :: rest).length ++
        (Leb128.encodeUnsigned f.encodeBody.length ++
        (f.encodeBody ++ (rest.map Func.encodeEntry).flatten)))) := by
  simp [Section.encode, Vec.ofBytes, Vec.ofItems, Func.encodeEntry]

/-- The numbers in the code section are no larger than there are bytes: each of them counts bytes
    behind it, or items of at least one byte. -/
theorem codeSection_bounds (f : Func) (rest : List Func) :
    (Vec.ofItems ((f :: rest).map Func.encodeEntry)).length
      ≤ (Section.encode ⟨.code, Vec.ofItems ((f :: rest).map Func.encodeEntry)⟩).length ∧
    (f :: rest).length ≤ (Vec.ofItems ((f :: rest).map Func.encodeEntry)).length ∧
    f.encodeBody.length ≤ (Vec.ofItems ((f :: rest).map Func.encodeEntry)).length := by
  have hentries : ((f :: rest).map Func.encodeEntry).flatten.length
      ≤ (Vec.ofItems ((f :: rest).map Func.encodeEntry)).length := by
    rw [Vec.ofItems, List.length_append]
    exact Nat.le_add_left _ _
  have hfirst : f.encodeEntry.length ≤ ((f :: rest).map Func.encodeEntry).flatten.length := by
    rw [List.map_cons, List.flatten_cons, List.length_append]
    exact Nat.le_add_right _ _
  refine ⟨Section.payload_length_le ⟨.code, _⟩, ?_, ?_⟩
  · have hcount := Vec.length_le_flatten (Func.nil_notMem_entries (f :: rest))
    rw [List.length_map] at hcount
    exact Nat.le_trans hcount hentries
  · exact Nat.le_trans f.length_encodeBody_le (Nat.le_trans hfirst hentries)

/-- The first body is found where it was written. -/
theorem firstBody?_write {m : Module} {f : Func} {rest : List Func}
    (h : m.write.bytes.length < 2 ^ 64) (hfuncs : m.funcs = f :: rest) :
    ∃ before after, m.write.bytes = before ++ (f.encodeBody ++ after) ∧
      (⟨Span.layout 0 m.write.sizes.entries⟩ : SectionIndex).firstBody? m.write.bytes
        = some ⟨before.length, f.encodeBody.length⟩ := by
  have hmem : ⟨.code, Vec.ofItems ((f :: rest).map Func.encodeEntry)⟩ ∈ m.sections := by
    rw [mem_sections]
    exact Section.ofItems?_eq_some.mpr ⟨by simp [items, hfuncs], by simp [items, hfuncs]⟩
  obtain ⟨before, after, hbytes, hget⟩ := exists_write_section hmem
  -- the numbers fit in a word because the bytes are not more than that
  obtain ⟨hpayload, hcount, hbody⟩ := codeSection_bounds f rest
  have hlen := congrArg List.length hbytes
  simp only [List.length_append] at hlen
  rw [encode_codeSection] at hbytes hget
  exact SectionIndex.firstBody?_of_spelled hbytes hget
    (Leb128.spells_encodeUnsigned (by omega)) (Leb128.spells_encodeUnsigned (by omega))
    (Nat.succ_ne_zero _) (Leb128.spells_encodeUnsigned (by omega))

/-- Without a function there is no body to be found. -/
theorem firstBody?_write_nil {m : Module} (hfuncs : m.funcs = []) :
    (⟨Span.layout 0 m.write.sizes.entries⟩ : SectionIndex).firstBody? m.write.bytes = none := by
  rw [Option.eq_none_iff_forall_ne_some]
  intro region hregion
  -- a body would need a code section, which is only written for functions
  obtain ⟨code, -, -, -, hcode, -⟩ := SectionIndex.firstBody?_eq_some_iff.mp hregion
  have hkind : m.declares .code = true := (List.mem_filter.mp (mem_kinds_of_get? hcode)).2
  simp [declares, hfuncs] at hkind

end Module

/-! ## The findings -/

namespace Audit

/-- Every span of a written module has a name that was recorded. -/
theorem mem_texts_of_layout {m : Module} {span : Span}
    (h : span ∈ Span.layout 0 m.write.sizes.entries) :
    span.name.text ∈ m.write.sizes.entries.map fun entry => entry.1.text := by
  rw [← Span.map_layout (fun name _ => name.text) 0]
  exact List.mem_map.mpr ⟨span, h, rfl⟩

/-- The size findings about written bytes are one for each recorded part, none for a stray span,
    and the total; all of them pass. -/
theorem sizeFindings_write {m : Module} (h : m.write.bytes.length < 2 ^ 64) :
    ∃ sized total, sizeFindings m.write.sizes ⟨Span.layout 0 m.write.sizes.entries⟩
        m.write.bytes.length = sized ++ [total] ∧
      (∀ f ∈ sized ++ [total], f.passed = true) ∧
      sized.map (fun f => (f.check, f.subject))
        = m.write.sizes.entries.map (fun entry => (.sectionSize, entry.1.text)) ∧
      (total.check, total.subject) = (.totalSize, "total") := by
  -- the layout has the recorded parts in their own order, so that nothing is to be rearranged
  have hpass : ∀ f ∈ sizeFindings m.write.sizes ⟨Span.layout 0 m.write.sizes.entries⟩
      m.write.bytes.length, f.passed = true := by
    refine (sizeFindings_pass_iff_perm (Module.parse_write h)).mpr (List.Perm.of_eq ?_)
    exact Span.map_layout (fun name length => (name.text, length)) 0 _
  -- the scan for stray spans finds nothing, and leaves no findings
  have hstray : ((Span.layout 0 m.write.sizes.entries).filter fun span =>
      !(m.write.sizes.entries.map fun entry => entry.1.text).contains span.name.text) = [] := by
    rw [List.filter_eq_nil_iff]
    intro span hspan
    simp only [List.contains_iff_mem.mpr (mem_texts_of_layout hspan), Bool.not_true,
      Bool.false_eq_true, not_false_eq_true]
  have hsplit : sizeFindings m.write.sizes ⟨Span.layout 0 m.write.sizes.entries⟩
      m.write.bytes.length
      = m.write.sizes.entries.map (fun entry =>
          recordedFinding ⟨Span.layout 0 m.write.sizes.entries⟩ entry.1.text entry.2)
        ++ [⟨.totalSize, "total", none, .length m.write.bytes.length,
          .length m.write.sizes.total⟩] := by
    simp only [sizeFindings, List.map_map, Function.comp_def, hstray, List.map_nil,
      List.append_nil]
  refine ⟨_, _, hsplit, hsplit ▸ hpass, ?_, rfl⟩
  rw [List.map_map]
  rfl

/-- The findings about the bytes of a written module: magic number and version pass, and the last
    one compares the first body. -/
theorem byteFindings_write (m : Module) (index : SectionIndex) (expected : Bytes) :
    ∃ magic version, byteFindings m.write.bytes index expected
        = [magic, version, regionFinding m.write.bytes "code body"
            (index.firstBody? m.write.bytes) expected] ∧
      magic.passed = true ∧ version.passed = true ∧
      (magic.check, magic.subject) = (.bytes, "magic") ∧
      (version.check, version.subject) = (.bytes, "version") := by
  refine ⟨_, _, rfl, ?_, ?_, rfl, rfl⟩
  · exact regionFinding_passed.mpr rfl
  · exact regionFinding_passed.mpr rfl

/-- **The audit of a module that was just written raises no false alarm.**  It reports, and all its
    findings pass but possibly the last: the samples, one size for each recorded part and none for
    anything else, the total, the magic number, the version.  The last finding is about the first
    body.  Where there is a function it has found that function's body, and fails exactly when
    another one was expected; where there is none it has found no bytes.  It decides alone about
    the report, unless an oracle gives other bytes. -/
theorem audit_write (m : Module) (h : m.write.bytes.length < 2 ^ 64) (expected : Bytes)
    (answer : Option OracleAnswer) :
    ∃ index report front body,
      SectionIndex.parse m.write.bytes = .ok index ∧
      audit m.write expected answer = .ok report ∧
      report.findings = front ++ [body] ∧ (∀ f ∈ front, f.passed = true) ∧
      front.map (fun f => (f.check, f.subject))
        = numberFindings.map (fun f => (f.check, f.subject))
          ++ m.write.sizes.entries.map (fun entry => (.sectionSize, entry.1.text))
          ++ [(.totalSize, "total"), (.bytes, "magic"), (.bytes, "version")] ∧
      (∀ f ∈ numberFindings, f.check = .leb128) ∧
      (body.check, body.subject, body.expected) = (.bytes, "code body", .bytes expected) ∧
      (∀ f rest, m.funcs = f :: rest → ∃ region,
        index.firstBody? m.write.bytes = some region ∧
        region.offset + region.length ≤ m.write.bytes.length ∧
        region.of m.write.bytes = f.encodeBody ∧ body.offset = some region.offset ∧
        body.actual = .bytes f.encodeBody ∧ (body.passed = false ↔ expected ≠ f.encodeBody)) ∧
      (m.funcs = [] → index.firstBody? m.write.bytes = none ∧ body.offset = none ∧
        body.actual = .bytes []) ∧
      (answer = none ∨ (∃ u, answer = some (.error u)) ∨ answer = some (.ok m.write.bytes) →
        (report.passed = true ↔ body.passed = true)) := by
  obtain ⟨sized, total, hsizes, hsizesPass, hsized, htotal⟩ := sizeFindings_write h
  obtain ⟨magic, version, hbytes, hmagicPass, hversionPass, hmagic, hversion⟩ :=
    byteFindings_write m ⟨Span.layout 0 m.write.sizes.entries⟩ expected
  have hparse := Module.parse_write h
  -- the findings in the order of the report, cut in front of the last one
  have hfindings : numberFindings
      ++ sizeFindings m.write.sizes ⟨Span.layout 0 m.write.sizes.entries⟩ m.write.bytes.length
      ++ byteFindings m.write.bytes ⟨Span.layout 0 m.write.sizes.entries⟩ expected
      = (numberFindings ++ sized ++ [total, magic, version])
        ++ [regionFinding m.write.bytes "code body"
          (SectionIndex.firstBody? ⟨Span.layout 0 m.write.sizes.entries⟩ m.write.bytes)
          expected] := by
    rw [hsizes, hbytes]
    simp only [List.append_assoc, List.cons_append, List.nil_append]
  have hfront : ∀ f ∈ numberFindings ++ sized ++ [total, magic, version], f.passed = true := by
    simp only [List.forall_mem_append, List.forall_mem_cons] at hsizesPass ⊢
    exact ⟨⟨numberFindings_pass, hsizesPass.1⟩, hsizesPass.2.1, hmagicPass, hversionPass,
      List.forall_mem_nil _⟩
  have haudit := audit_of_parse hparse m.write.sizes expected answer
  rw [hfindings] at haudit
  refine ⟨_, _, _, _, hparse, haudit, rfl, hfront, ?_, by decide, rfl, fun f rest hfuncs => ?_,
    fun hfuncs => ?_, fun hanswer => ?_⟩
  · simp only [List.map_append, List.map_cons, List.map_nil, hsized, htotal, hmagic, hversion]
  · -- with a function, the last finding is about its body
    obtain ⟨before, after, hsplit, hfirst⟩ := Module.firstBody?_write h hfuncs
    have hof : Region.of ⟨before.length, f.encodeBody.length⟩ m.write.bytes = f.encodeBody := by
      rw [hsplit, Region.of_append]
    rw [hfirst]
    refine ⟨_, rfl, SectionIndex.firstBody?_within hfirst, hof, rfl, ?_, ?_⟩
    · exact congrArg Observed.bytes hof
    · rw [← Bool.not_eq_true, regionFinding_passed, Option.map_some, Option.getD_some, hof]
      exact not_congr eq_comm
  · rw [Module.firstBody?_write_nil hfuncs]
    exact ⟨rfl, rfl, rfl⟩
  · rw [Report.passed_iff_findings, Report.objection?_eq_none, List.forall_mem_append,
      List.forall_mem_singleton]
    exact ⟨fun hpassed => hpassed.1.2, fun hbody => ⟨⟨hfront, hbody⟩, hanswer⟩⟩

/-- The module of one empty function, audited for another body. -/
theorem audit_write_drifted :
    (Module.mk [{}] [] [⟨0, [], []⟩] [] []).write.bytes.length < 2 ^ 64 ∧
    ∃ report, audit (Module.mk [{}] [] [⟨0, [], []⟩] [] []).write [0x00, 0x01, 0x0B] none
        = .ok report ∧
      report.passed = false ∧ (report.failures.map (·.subject)) = ["code body"] := by
  have hsmall : (Module.mk [{}] [] [⟨0, [], []⟩] [] []).write.bytes.length < 2 ^ 64 := by
    decide +kernel
  obtain ⟨index, report, front, body, -, haudit, hfindings, hfront, -, -, hbody, hfirst, -,
    hpassed⟩ := audit_write _ hsmall [0x00, 0x01, 0x0B] none
  obtain ⟨region, -, -, -, -, -, hfails⟩ := hfirst _ _ rfl
  -- the body that was written is not the one that is expected
  have hfail : body.passed = false := hfails.mpr (by decide +kernel)
  refine ⟨hsmall, report, haudit, ?_, ?_⟩
  · rw [← Bool.not_eq_true, hpassed (Or.inl rfl), hfail]
    decide
  · have hnone : front.filter (fun f => !f.passed) = [] :=
      List.filter_eq_nil_iff.mpr fun f hf => by simp [hfront f hf]
    obtain ⟨-, hrest⟩ := Prod.mk.inj hbody
    obtain ⟨hsubject, -⟩ := Prod.mk.inj hrest
    simp [Report.failures, hfindings, hnone, hfail, hsubject]

end Audit

end WasmBinary
