/-
  The lines of a printed report.

  A report is printed entry by entry, one for each finding and one for the oracle's verdict, and
  each entry gets a newline of its own.  A reader takes lines for entries, and looks for those that
  start with FAIL.

  1. **Lines** — a text that is made of parts with a newline behind each is cut into the lines of
     the parts (`linesOf_ended`).  So a report has one line for each entry exactly where no entry
     holds a newline itself.

  2. **Findings** — a finding of an audit is about a number, a section, the total or one of three
     regions; none of their names holds a newline, and all else in its text are words, digits and
     brackets (`Audit.newline_notMem_text`).  Two of three verdicts are of the same make.

  3. **Reasons** — the third one repeats what the oracle said.  That text is foreign, and it is
     printed as it came: each newline in it starts another line, behind which it may say anything.
     The crux is `exists_prefix_splitOn_tail`: a line behind the first starts with a word just where
     the word stands behind a newline.

  4. **Reports** — the lines of the report of an audit are known (`Audit.linesOf_text`), and
     with them what a reader takes for failures (`Audit.exists_fail_line_iff`).
-/
import WasmBinary.Proofs.Audit.Verdicts
import WasmBinary.Proofs.Section.Names
import WasmBinary.Proofs.Session.Course
import WasmBinary.Proofs.Text.HexDump

namespace WasmBinary

/-! ## Lines -/

/-- The lines of a text: what stands in front of each newline, and what stands behind the last one,
    if anything does. -/
def linesOf (text : String) : List (List Char) :=
  let parts := text.toList.splitOn '\n'
  if parts.getLast? = some [] then parts.dropLast else parts

/-- Parts with a newline behind each are cut as the parts are cut one by one, and then there is
    nothing behind the last newline. -/
theorem splitOn_ended (parts : List (List Char)) :
    (parts.flatMap (· ++ ['\n'])).splitOn '\n' = parts.flatMap (·.splitOn '\n') ++ [[]] := by
  induction parts with
  | nil => rfl
  | cons part parts ih =>
    rw [List.flatMap_cons, List.flatMap_cons, List.append_assoc, List.singleton_append,
      List.splitOn_append_cons_self, ih, List.append_assoc]

/-- Parts with a newline behind each have the lines that they have one by one. -/
theorem linesOf_ended {text : String} {parts : List (List Char)}
    (h : text.toList = parts.flatMap (· ++ ['\n'])) :
    linesOf text = parts.flatMap (·.splitOn '\n') := by
  rw [linesOf, h, splitOn_ended, List.getLast?_concat, if_pos rfl, List.dropLast_concat]

/-- There is one line more than there are newlines. -/
theorem length_splitOn_newline (text : List Char) :
    (text.splitOn '\n').length = text.count '\n' + 1 := by
  induction text with
  | nil => rfl
  | cons c text ih =>
    rw [List.splitOn_cons_eq_if_modifyHead, List.count_cons]
    by_cases hc : (c == '\n') = true
    · rw [if_pos hc, if_pos hc, List.length_cons, ih]
    · rw [if_neg hc, if_neg hc, List.length_modifyHead, ih, Nat.add_zero]

/-- A text starts with a word exactly if its first line does. -/
theorem prefix_head_splitOn {word text first : List Char} {more : List (List Char)}
    (hword : '\n' ∉ word) (h : text.splitOn '\n' = first :: more) :
    word <+: first ↔ word <+: text := by
  induction text generalizing word first with
  | nil =>
    obtain ⟨rfl, -⟩ := List.cons.inj h
    rfl
  | cons c text ih =>
    cases word with
    | nil => simp
    | cons d word =>
      -- a newline ends the first line, and any other character stands in front of it
      obtain ⟨hd, hword⟩ := not_or.mp (mt List.mem_cons.mpr hword)
      rw [List.splitOn_cons_eq_if_modifyHead] at h
      obtain ⟨next, others, hsplit⟩ := List.exists_cons_of_ne_nil (List.splitOn_ne_nil '\n' text)
      by_cases hc : c = '\n'
      · subst hc
        obtain ⟨rfl, -⟩ := List.cons.inj h
        simp [Ne.symm hd]
      · rw [if_neg (by simpa using hc), hsplit] at h
        obtain ⟨rfl, rfl⟩ := List.cons.inj h
        rw [List.cons_prefix_cons, List.cons_prefix_cons, ih hword hsplit]

/-- A line behind the first starts with a word exactly if the word stands behind a newline. -/
theorem exists_prefix_splitOn_tail {word : List Char} (hword : '\n' ∉ word) (text : List Char) :
    (∃ line ∈ (text.splitOn '\n').tail, word <+: line) ↔ '\n' :: word <:+: text := by
  induction text with
  | nil => simp
  | cons c text ih =>
    rw [List.infix_cons_iff, List.cons_prefix_cons, ← ih, List.splitOn_cons_eq_if_modifyHead]
    obtain ⟨next, others, hsplit⟩ := List.exists_cons_of_ne_nil (List.splitOn_ne_nil '\n' text)
    by_cases hc : c = '\n'
    · -- the line in front of the newline is the first, so that all others are behind it
      subst hc
      rw [if_pos (beq_self_eq_true _), List.tail_cons, hsplit, List.exists_mem_cons_iff,
        List.tail_cons, prefix_head_splitOn hword hsplit]
      simp
    · rw [if_neg (by simpa using hc), hsplit]
      simp [Ne.symm hc]

/-- What holds no newline can stand in front without a change to the lines behind the first. -/
theorem infix_append_iff_of_notMem {front word text : List Char} (hfront : '\n' ∉ front) :
    '\n' :: word <:+: front ++ text ↔ '\n' :: word <:+: text := by
  induction front with
  | nil => rfl
  | cons c front ih =>
    obtain ⟨hc, hfront⟩ := not_or.mp (mt List.mem_cons.mpr hfront)
    rw [List.cons_append, List.infix_cons_iff, List.cons_prefix_cons, ih hfront]
    simp [hc]

/-- A line of a text starts with a word exactly if the text does, or the word stands behind a
    newline. -/
theorem exists_prefix_splitOn {word : List Char} (hword : '\n' ∉ word) (text : List Char) :
    (∃ line ∈ text.splitOn '\n', word <+: line) ↔ word <+: text ∨ '\n' :: word <:+: text := by
  obtain ⟨first, more, hsplit⟩ := List.exists_cons_of_ne_nil (List.splitOn_ne_nil '\n' text)
  rw [← exists_prefix_splitOn_tail hword, ← prefix_head_splitOn hword hsplit, hsplit,
    List.exists_mem_cons_iff, List.tail_cons]

/-! ## Findings -/

/-- Printable characters start above the newline, so that a text of them is one line. -/
theorem newline_notMem_of_printable {text : List Char} (h : ∀ c ∈ text, HexDump.Printable c) :
    '\n' ∉ (String.ofList text).toList := by
  rw [String.toList_ofList]
  intro hnewline
  obtain ⟨hlow, -⟩ := h '\n' hnewline
  exact absurd hlow (by decide)

/-- A number is written in digits, and no digit is a newline. -/
theorem newline_notMem_toString (n : Nat) : '\n' ∉ (toString n).toList := by
  rw [Nat.toString_eq_ofList_toDigits, String.toList_ofList]
  intro hnewline
  exact absurd (Nat.isDigit_of_mem_toDigits (by decide) (by decide) hnewline) (by decide)

/-- The four checks have names of one line each. -/
theorem Check.newline_notMem_text (c : Check) : '\n' ∉ c.text.toList := by
  cases c <;> decide

/-- What was expected and what was found are told in one line: a length is digits and a word, and
    bytes are hex digits between brackets. -/
theorem Observed.newline_notMem_text (o : Observed) : '\n' ∉ o.text.toList := by
  cases o with
  | length n =>
    rw [text, String.toList_append, List.mem_append, not_or]
    exact ⟨newline_notMem_toString n, by decide⟩
  | bytes data =>
    have hdata : '\n' ∉ (String.ofList (Hex.spaced data)).toList :=
      newline_notMem_of_printable fun c => HexDump.printable_of_mem_spaced
    rw [text, String.toList_append, String.toList_append, List.mem_append, List.mem_append, not_or,
      not_or]
    exact ⟨⟨by decide, hdata⟩, by decide⟩

/-- So is the place of a finding, in hex digits where there is one. -/
theorem Finding.newline_notMem_offsetText (offset : Option Nat) :
    '\n' ∉ (offsetText offset).toList := by
  cases offset with
  | none => decide
  | some n =>
    have hdigits : '\n' ∉ (String.ofList (Hex.digits 2 n)).toList :=
      newline_notMem_of_printable fun c => HexDump.printable_of_mem_digits
    rw [offsetText, String.toList_append, List.mem_append, not_or]
    exact ⟨by decide, hdigits⟩

/-- The text of a finding is one line, if its subject is. -/
theorem Finding.newline_notMem_text {f : Finding} (h : '\n' ∉ f.subject.toList) :
    '\n' ∉ f.text.toList := by
  simp only [text, String.toList_append, List.mem_append, not_or]
  exact ⟨⟨⟨⟨⟨⟨⟨f.check.newline_notMem_text, by decide⟩, h⟩, newline_notMem_offsetText f.offset⟩,
    by decide⟩, f.expected.newline_notMem_text⟩, by decide⟩, f.actual.newline_notMem_text⟩

/-- Names of sections are made of few characters, and a newline is none of them. -/
theorem SectionName.newline_notMem_text (n : SectionName) : '\n' ∉ n.text.toList := by
  intro hnewline
  exact absurd (nameChar_of_mem_text hnewline) (by decide)

/-- A verdict on different bytes is told as a finding is, about a subject that is fixed. -/
theorem Verdict.newline_notMem_difference (ours reference : Nat) (diff : Option Difference) :
    '\n' ∉ (differenceFinding ours reference diff).text.toList := by
  refine Finding.newline_notMem_text ?_
  have hsubject : (differenceFinding ours reference diff).subject = "reference binary" := by
    cases diff <;> rfl
  rw [hsubject]
  decide

namespace Audit

/-- The subjects of the findings about numbers are numbers. -/
theorem newline_notMem_subject_numbers :
    ∀ f ∈ numberFindings, '\n' ∉ f.subject.toList := by
  decide +kernel

/-- Those of the findings about sizes are names of sections, from the table or from the index, and
    the total. -/
theorem newline_notMem_subject_sizes {sizes : SectionSizes} {index : SectionIndex} {actual : Nat} :
    ∀ f ∈ sizeFindings sizes index actual, '\n' ∉ f.subject.toList := by
  rw [sizeFindings]
  simp only [List.forall_mem_append, List.forall_mem_map, List.forall_mem_singleton]
  refine ⟨⟨fun entry _ => ?_, fun span _ => ?_⟩, by decide⟩
  · exact entry.1.newline_notMem_text
  · exact span.name.newline_notMem_text

/-- Those of the findings about bytes are three fixed names. -/
theorem newline_notMem_subject_bytes {data expected : Bytes} {index : SectionIndex} :
    ∀ f ∈ byteFindings data index expected, '\n' ∉ f.subject.toList := by
  simp only [byteFindings, List.forall_mem_cons, regionFinding]
  exact ⟨by decide, by decide, by decide, List.forall_mem_nil _⟩

/-- Every finding of an audit is one line, whatever was audited: this is settled by its subject, and
    each of the three kinds of findings has subjects of one line. -/
theorem newline_notMem_text {encoded : Encoded} {expected : Bytes} {answer : Option OracleAnswer}
    {r : Report} (h : audit encoded expected answer = .ok r) :
    ∀ f ∈ r.findings, '\n' ∉ f.text.toList := by
  obtain ⟨index, -, hfindings, -⟩ := exists_of_audit h
  intro f hf
  refine Finding.newline_notMem_text ?_
  rw [hfindings] at hf
  rcases List.mem_append.mp hf with hf | hf
  · rcases List.mem_append.mp hf with hf | hf
    · exact newline_notMem_subject_numbers f hf
    · exact newline_notMem_subject_sizes f hf
  · exact newline_notMem_subject_bytes f hf

end Audit

/-! ## Reports -/

namespace Report

/-- What is printed for a finding, without its end. -/
def findingEntry (f : Finding) : List Char :=
  (if f.passed then "ok   " else "FAIL ").toList ++ f.text.toList

/-- What is printed for a verdict, without its end. -/
def verdictEntry : Verdict → List Char
  | .unavailable reason => "skip oracle: ".toList ++ reason.toList
  | .identical length => ("ok   oracle: identical, " ++ toString length ++ " bytes").toList
  | .different ours reference firstDiff =>
      "FAIL ".toList ++ (Verdict.differenceFinding ours reference firstDiff).text.toList

/-- The entries of a report, in order. -/
def entries (r : Report) : List (List Char) :=
  r.findings.map findingEntry ++ (r.oracle.map verdictEntry).toList

/-- The line that is printed for a finding is its entry with a newline behind it. -/
theorem toList_findingLine (f : Finding) :
    (findingLine f).toList = findingEntry f ++ ['\n'] := by
  rw [findingLine, String.toList_append, String.toList_append]
  rfl

/-- And so is that for a verdict, in each of its three forms. -/
theorem toList_verdictLine (v : Verdict) : (verdictLine v).toList = verdictEntry v ++ ['\n'] := by
  cases v with
  | unavailable reason =>
    show ("skip oracle: " ++ reason ++ "\n").toList = _
    rw [String.toList_append, String.toList_append]
    rfl
  | identical length =>
    have hend : " bytes\n".toList = " bytes".toList ++ ['\n'] := by
      decide
    show ("ok   oracle: identical, " ++ toString length ++ " bytes\n").toList
      = ("ok   oracle: identical, " ++ toString length ++ " bytes").toList ++ ['\n']
    rw [String.toList_append, String.toList_append, String.toList_append, String.toList_append,
      hend, ← List.append_assoc]
  | different ours reference diff =>
    show ("FAIL " ++ (Verdict.differenceFinding ours reference diff).text ++ "\n").toList = _
    rw [String.toList_append, String.toList_append]
    rfl

/-- Each entry is printed with an end of its own. -/
theorem toList_text (r : Report) : r.text.toList = r.entries.flatMap (· ++ ['\n']) := by
  rw [text, entries, String.toList_append, String.toList_join, List.flatMap_append,
    List.flatMap_map, List.flatMap_map]
  congr 1
  · exact List.flatMap_congr fun f _ => toList_findingLine f
  · cases r.oracle with
    | none => rfl
    | some v => exact (toList_verdictLine v).trans (List.append_nil _).symm

/-- A report has the lines of its entries. -/
theorem linesOf_text (r : Report) : linesOf r.text = r.entries.flatMap (·.splitOn '\n') :=
  linesOf_ended r.toList_text

/-! ### Status -/

/-- The entry of a finding starts with the status of the finding, which the first four characters
    settle. -/
theorem status_prefix_findingEntry {f : Finding} :
    ("ok   ".toList <+: findingEntry f ↔ f.passed = true) ∧
      ("FAIL ".toList <+: findingEntry f ↔ f.passed = false) := by
  cases hpassed : f.passed <;> simp [findingEntry, hpassed]

/-- To see a failure it is enough to look for the word. -/
theorem fail_prefix_findingEntry {f : Finding} :
    "FAIL".toList <+: findingEntry f ↔ f.passed = false := by
  cases hpassed : f.passed <;> simp [findingEntry, hpassed]

/-- A verdict starts with FAIL exactly if it objects. -/
theorem fail_prefix_verdictEntry {v : Verdict} :
    "FAIL".toList <+: verdictEntry v ↔ v.objects = true := by
  cases v with
  | unavailable reason =>
    show "FAIL".toList <+: "skip oracle: ".toList ++ reason.toList ↔ _
    simp [Verdict.objects]
  | identical length =>
    show "FAIL".toList <+: ("ok   oracle: identical, " ++ toString length ++ " bytes").toList ↔ _
    simp [Verdict.objects]
  | different ours reference diff =>
    exact iff_of_true ⟨' ' :: (Verdict.differenceFinding ours reference diff).text.toList, rfl⟩ rfl

/-- A report does not pass where a finding does not, or where the verdict objects. -/
theorem passed_eq_false_iff_entry {r : Report} :
    r.passed = false ↔ (∃ f ∈ r.findings, f.passed = false) ∨
      ∃ v, r.oracle = some v ∧ v.objects = true := by
  rw [passed, Bool.and_eq_false_iff, failures, Bool.not_eq_false', Option.any_eq_true,
    ← Bool.not_eq_true, List.isEmpty_iff, List.filter_eq_nil_iff]
  simp

/-! ### Lines -/

/-- An entry adds nothing but its status to the text of the finding. -/
theorem newline_notMem_findingEntry {f : Finding} (h : '\n' ∉ f.text.toList) :
    '\n' ∉ findingEntry f := by
  rw [findingEntry, List.mem_append, not_or]
  refine ⟨?_, h⟩
  split <;> decide

/-- All verdicts are one line, but for what an oracle says. -/
theorem newline_notMem_verdictEntry_iff {v : Verdict} :
    '\n' ∉ verdictEntry v ↔ ∀ reason, v = .unavailable reason → '\n' ∉ reason.toList := by
  cases v with
  | unavailable reason =>
    show '\n' ∉ "skip oracle: ".toList ++ reason.toList ↔ _
    simp
  | identical length =>
    refine iff_of_true ?_ nofun
    show '\n' ∉ ("ok   oracle: identical, " ++ toString length ++ " bytes").toList
    simp only [String.toList_append, List.mem_append, not_or]
    exact ⟨⟨by decide, newline_notMem_toString length⟩, by decide⟩
  | different ours reference diff =>
    refine iff_of_true ?_ nofun
    show '\n' ∉ "FAIL ".toList ++ (Verdict.differenceFinding ours reference diff).text.toList
    rw [List.mem_append, not_or]
    exact ⟨by decide, Verdict.newline_notMem_difference ours reference diff⟩

/-- A line of a verdict starts with FAIL where the verdict objects, or where an oracle said so. -/
theorem exists_fail_verdict_iff {v : Verdict} :
    (∃ line ∈ (verdictEntry v).splitOn '\n', "FAIL".toList <+: line) ↔
      v.objects = true ∨ ∃ reason, v = .unavailable reason ∧
        "\nFAIL".toList <:+: reason.toList := by
  rw [exists_prefix_splitOn (by decide), fail_prefix_verdictEntry]
  refine or_congr_right ?_
  show "\nFAIL".toList <:+: verdictEntry v ↔ _
  -- what holds no newline holds nothing behind one
  have hone (hreason : ∀ reason, v ≠ .unavailable reason) :
      ¬ "\nFAIL".toList <:+: verdictEntry v := by
    intro hfail
    have hnewline : '\n' ∈ verdictEntry v := hfail.subset (by decide)
    exact newline_notMem_verdictEntry_iff.mpr (fun reason h => absurd h (hreason reason)) hnewline
  cases v with
  | unavailable reason =>
    have hfront : "\nFAIL".toList <:+: "skip oracle: ".toList ++ reason.toList ↔
        "\nFAIL".toList <:+: reason.toList :=
      infix_append_iff_of_notMem (by decide)
    exact hfront.trans (by simp)
  | identical length => exact iff_of_false (hone nofun) (by simp)
  | different ours reference diff => exact iff_of_false (hone nofun) (by simp)

/-- What a reader takes a report for: each entry is a line, in order, with its status in front and
    that of the verdict behind the others, and there is a line that starts with FAIL exactly if the
    report does not pass. -/
structure LineByLine (r : Report) : Prop where
  length : (linesOf r.text).length = r.findings.length + r.oracle.toList.length
  finding : ∀ (i : Nat) (f : Finding), r.findings[i]? = some f →
    ∃ line, (linesOf r.text)[i]? = some line ∧
      ("ok   ".toList <+: line ↔ f.passed = true) ∧ ("FAIL ".toList <+: line ↔ f.passed = false)
  verdict : ∀ v, r.oracle = some v → (linesOf r.text).getLast? = some (verdictEntry v)
  fails : (∃ line ∈ linesOf r.text, "FAIL".toList <+: line) ↔ r.passed = false

end Report

namespace Audit

variable {encoded : Encoded} {expected : Bytes} {answer : Option OracleAnswer} {r : Report}

/-- The lines of the findings come first, one for each; then come those of the verdict. -/
theorem linesOf_text (h : audit encoded expected answer = .ok r) :
    linesOf r.text = r.findings.map Report.findingEntry
      ++ r.oracle.elim [] fun v => (Report.verdictEntry v).splitOn '\n' := by
  rw [Report.linesOf_text, Report.entries, List.flatMap_append, List.flatMap_map]
  congr 1
  · -- each finding is one line
    have hsingle : ∀ f ∈ r.findings,
        (Report.findingEntry f).splitOn '\n' = [Report.findingEntry f] := by
      intro f hf
      have htext := newline_notMem_text h f hf
      exact List.splitOn_eq_singleton (Report.newline_notMem_findingEntry htext)
    rw [List.flatMap_congr hsingle, List.map_eq_flatMap]
  · cases r.oracle with
    | none => rfl
    | some v => exact List.append_nil _

/-- A report is unavailable for the reason that the oracle gave. -/
theorem oracle_eq_unavailable_iff (h : audit encoded expected answer = .ok r) {reason : String} :
    r.oracle = some (.unavailable reason) ↔ answer = some (.error ⟨reason⟩) := by
  obtain ⟨index, -, -, horacle⟩ := exists_of_audit h
  rw [horacle, Option.map_eq_some_iff]
  simp only [Verdict.ofAnswer_eq_unavailable_iff, exists_eq_right]

/-- A verdict is one line exactly if the oracle gave no reason that holds a newline. -/
theorem newline_notMem_verdictEntry_iff (h : audit encoded expected answer = .ok r) {v : Verdict}
    (hv : r.oracle = some v) : '\n' ∉ Report.verdictEntry v ↔
      ∀ u, answer = some (.error u) → '\n' ∉ u.reason.toList := by
  rw [Report.newline_notMem_verdictEntry_iff]
  constructor
  · intro hall u hu
    have hreason := (oracle_eq_unavailable_iff h).mpr hu
    exact hall u.reason (Option.some.inj (hv.symm.trans hreason))
  · rintro hall reason rfl
    exact hall ⟨reason⟩ ((oracle_eq_unavailable_iff h).mp hv)

/-- The lines are as many as the entries exactly if no reason holds a newline. -/
theorem length_linesOf_iff (h : audit encoded expected answer = .ok r) :
    (linesOf r.text).length = r.findings.length + r.oracle.toList.length ↔
      ∀ u, answer = some (.error u) → '\n' ∉ u.reason.toList := by
  rw [linesOf_text h, List.length_append, List.length_map, Nat.add_left_cancel_iff]
  cases hv : r.oracle with
  | none =>
    refine iff_of_true rfl fun u hu => ?_
    -- without a verdict no oracle was asked, and so none gave a reason
    have hreason := (oracle_eq_unavailable_iff h).mpr hu
    exact nomatch hv.symm.trans hreason
  | some v =>
    show ((Report.verdictEntry v).splitOn '\n').length = 1 ↔ _
    rw [length_splitOn_newline, Nat.add_eq_right, List.count_eq_zero,
      newline_notMem_verdictEntry_iff h hv]

/-- A line starts with FAIL where the report does not pass, or where the oracle said so. -/
theorem exists_fail_line_iff (h : audit encoded expected answer = .ok r) :
    (∃ line ∈ linesOf r.text, "FAIL".toList <+: line) ↔
      r.passed = false ∨
        ∃ u, answer = some (.error u) ∧ "\nFAIL".toList <:+: u.reason.toList := by
  -- a failure is seen in front of a finding, at a verdict that objects, or within a reason
  have hfindings : (∃ line ∈ r.findings.map Report.findingEntry, "FAIL".toList <+: line) ↔
      ∃ f ∈ r.findings, f.passed = false := by
    simp only [List.mem_map, exists_exists_and_eq_and, Report.fail_prefix_findingEntry]
  have hverdict : (∃ line ∈ r.oracle.elim [] fun v => (Report.verdictEntry v).splitOn '\n',
      "FAIL".toList <+: line) ↔ (∃ v, r.oracle = some v ∧ v.objects = true) ∨
        ∃ reason, r.oracle = some (.unavailable reason) ∧
          "\nFAIL".toList <:+: reason.toList := by
    cases r.oracle with
    | none => simp
    | some v =>
      simp only [Option.some.injEq, exists_eq_left']
      exact Report.exists_fail_verdict_iff
  have hreason : (∃ reason, r.oracle = some (.unavailable reason) ∧
        "\nFAIL".toList <:+: reason.toList) ↔
      ∃ u, answer = some (.error u) ∧ "\nFAIL".toList <:+: u.reason.toList := by
    simp only [oracle_eq_unavailable_iff h]
    exact ⟨fun ⟨reason, hu, hfail⟩ => ⟨⟨reason⟩, hu, hfail⟩,
      fun ⟨u, hu, hfail⟩ => ⟨u.reason, hu, hfail⟩⟩
  rw [linesOf_text h, Report.passed_eq_false_iff_entry, or_assoc, ← hreason, ← hfindings,
    ← hverdict]
  simp only [List.mem_append, or_and_right, exists_or]

/-- A report whose oracle gave no reason of several lines is read line by line: each entry is one
    line then, so that lines are entries, and no line is there for a newline in a reason. -/
theorem lineByLine_of_notMem (h : audit encoded expected answer = .ok r)
    (hreason : ∀ u, answer = some (.error u) → '\n' ∉ u.reason.toList) : r.LineByLine where
  length := (length_linesOf_iff h).mpr hreason
  finding i f hf := by
    refine ⟨Report.findingEntry f, ?_, Report.status_prefix_findingEntry⟩
    have hi : i < (r.findings.map Report.findingEntry).length := by
      rw [List.length_map]
      exact (List.getElem?_eq_some_iff.mp hf).1
    rw [linesOf_text h, List.getElem?_append_left hi, List.getElem?_map, hf]
    rfl
  verdict v hv := by
    have hentry := (newline_notMem_verdictEntry_iff h hv).mpr hreason
    rw [linesOf_text h, hv, Option.elim_some, List.splitOn_eq_singleton hentry,
      List.getLast?_concat]
  fails := by
    rw [exists_fail_line_iff h]
    refine or_iff_left ?_
    rintro ⟨u, hu, hfail⟩
    exact hreason u hu (hfail.subset (by decide))

/-- **A report is read line by line exactly if the oracle gave no reason of several lines.**  The
    findings of every audit are one line each, whatever the bytes and the expected body are, and so
    is a verdict on bytes.  A reason is repeated as it came, so that its newlines make further
    lines.  A line starts with FAIL if the report does not pass, and besides exactly where the
    reason holds FAIL behind a newline, also in a report that passes. -/
theorem report_line_by_line_iff (encoded : Encoded) (expected : Bytes)
    (answer : Option OracleAnswer) (r : Report) (h : audit encoded expected answer = .ok r) :
    (r.LineByLine ↔ ∀ u, answer = some (.error u) → '\n' ∉ u.reason.toList) ∧
    (linesOf r.text = r.findings.map Report.findingEntry
      ++ r.oracle.elim [] fun v => (Report.verdictEntry v).splitOn '\n') ∧
    ((∃ line ∈ linesOf r.text, "FAIL".toList <+: line) ↔
      r.passed = false ∨
        ∃ u, answer = some (.error u) ∧ "\nFAIL".toList <:+: u.reason.toList) := by
  refine ⟨⟨fun hlines => ?_, lineByLine_of_notMem h⟩, linesOf_text h, exists_fail_line_iff h⟩
  exact (length_linesOf_iff h).mp hlines.length

/-- The fixture passes whatever reason the compiler gives. -/
theorem exists_fixture_report (reason : String) : ∃ r,
    audit Fixture.built.write Fixture.expectedBody (some (.error ⟨reason⟩)) = .ok r ∧
    r.passed = true := by
  obtain ⟨findings, hinspect, hpassed⟩ := Fixture.inspect_built
  refine ⟨_, by rw [audit, hinspect]; rfl, (hpassed (some (.error ⟨reason⟩))).mpr ?_⟩
  exact Or.inr (Or.inl ⟨_, rfl⟩)

/-- A reason of one line: the report on the fixture is read as it is meant. -/
theorem report_line_by_line_not_found : ∃ r,
    audit Fixture.built.write Fixture.expectedBody (some (.error ⟨"wat2wasm not found"⟩)) = .ok r ∧
    r.passed = true ∧ r.LineByLine := by
  -- the reason is looked at whole, and it holds no newline
  obtain ⟨r, haudit, hpassed⟩ := exists_fixture_report "wat2wasm not found"
  obtain ⟨hlines, -, -⟩ := report_line_by_line_iff _ _ _ r haudit
  refine ⟨r, haudit, hpassed, hlines.mpr fun u hu => ?_⟩
  obtain rfl := Except.error.inj (Option.some.inj hu)
  decide

/-- A reason of two lines: the report on the fixture passes, and shows a failure that is none, on a
    line more than it has entries. -/
theorem report_shows_failure_of_reason : ∃ r,
    audit Fixture.built.write Fixture.expectedBody
      (some (.error ⟨"wat2wasm failed (exit status: 1): error\nFAIL bytes code body"⟩)) = .ok r ∧
    r.passed = true ∧
    (∃ line ∈ linesOf r.text, "FAIL".toList <+: line) ∧
    (linesOf r.text).length ≠ r.findings.length + r.oracle.toList.length := by
  obtain ⟨r, haudit, hpassed⟩ :=
    exists_fixture_report "wat2wasm failed (exit status: 1): error\nFAIL bytes code body"
  refine ⟨r, haudit, hpassed, (exists_fail_line_iff haudit).mpr (Or.inr ⟨_, rfl, by decide⟩),
    fun hlength => ?_⟩
  exact (length_linesOf_iff haudit).mp hlength _ rfl (by decide)

end Audit

end WasmBinary
