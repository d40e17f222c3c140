/-
  What a verdict tells, and how a report decides.

  1. **First differences** — the search goes through both byte strings at once, as far as both go.
     It stops behind a part that both have in common (`Difference.first?_eq_some_iff`).  Where it
     finds nothing, one of the two is a beginning of the other (`Difference.first?_eq_none_iff`).
     So there is exactly one thing to tell about two byte strings that are not the same
     (`Difference.tells_iff`).

  2. **Verdicts** — a verdict against our bytes always has something to show: two bytes that are not
     the same, or else two lengths that are not.  Its finding never passes
     (`Verdict.passed_of_finding?_ofAnswer`).

  3. **Reports** — a report decides twice.  `passed` looks for a finding that fails and for an
     objection of the oracle's; `result` looks for the finding to fail by.  There is one exactly if
     the report does not pass (`Report.passed_eq_false_iff`), because a verdict objects exactly if
     it has a finding.  A report may hold any verdict, also one of a difference where there is none;
     that of an audit is a verdict on an answer, so that the finding that it fails by does fail.
-/
import Mathlib.Order.Bounds.Basic
import WasmBinary.Proofs.Audit.Findings

namespace WasmBinary

/-! ## First differences -/

namespace Difference

/-- Both byte strings have a byte at the position, and not the same one. -/
def At (ours reference : Bytes) (i : Nat) : Prop :=
  ∃ a b, ours[i]? = some a ∧ reference[i]? = some b ∧ a ≠ b

/-- The bytes of a beginning stand where they stood. -/
theorem getElem?_of_front {front whole : Bytes} (h : front <+: whole) {i : Nat} {a : UInt8}
    (ha : front[i]? = some a) : whole[i]? = some a := by
  obtain ⟨hi, rfl⟩ := List.getElem?_eq_some_iff.mp ha
  exact List.prefix_iff_getElem?.mp h i hi

/-- The search stops behind what both have in common. -/
theorem first?_eq_some_iff {offset : Nat} {ours reference : Bytes} {d : Difference} :
    first? offset ours reference = some d ↔
      ∃ common rest rest', ours = common ++ d.ours :: rest ∧
        reference = common ++ d.reference :: rest' ∧ d.ours ≠ d.reference ∧
        d.offset = offset + common.length := by
  fun_induction first? offset ours reference with
  | case1 offset ours a reference ih =>
    rw [ih]
    constructor
    · rintro ⟨common, rest, rest', rfl, rfl, hne, hoffset⟩
      refine ⟨a :: common, rest, rest', rfl, rfl, hne, ?_⟩
      rw [List.length_cons]
      omega
    · rintro ⟨common, rest, rest', hours, hreference, hne, hoffset⟩
      cases common with
      | nil => exact absurd ((List.cons.inj hours).1.symm.trans (List.cons.inj hreference).1) hne
      | cons c common =>
        obtain ⟨-, rfl⟩ := List.cons.inj hours
        obtain ⟨-, rfl⟩ := List.cons.inj hreference
        refine ⟨common, rest, rest', rfl, rfl, hne, ?_⟩
        rw [List.length_cons] at hoffset
        omega
  | case2 offset a ours b reference hab =>
    constructor
    · intro h
      obtain rfl := Option.some.inj h
      exact ⟨[], ours, reference, rfl, rfl, hab, rfl⟩
    · rintro ⟨common, rest, rest', hours, hreference, hne, hoffset⟩
      cases common with
      | nil =>
        obtain ⟨rfl, -⟩ := List.cons.inj hours
        obtain ⟨rfl, -⟩ := List.cons.inj hreference
        rw [← (show d.offset = offset from hoffset)]
      | cons c common =>
        exact absurd ((List.cons.inj hours).1.trans (List.cons.inj hreference).1.symm) hab
  | case3 ours offset reference hend =>
    constructor
    · intro h
      nomatch h
    · rintro ⟨common, rest, rest', rfl, rfl, -, -⟩
      -- both would go on
      cases common with
      | nil => exact (hend _ _ _ _ rfl rfl).elim
      | cons c common => exact (hend _ _ _ _ rfl rfl).elim

/-- The search finds nothing exactly where one of the two is a beginning of the other. -/
theorem first?_eq_none_iff {offset : Nat} {ours reference : Bytes} :
    first? offset ours reference = none ↔ ours <+: reference ∨ reference <+: ours := by
  fun_induction first? offset ours reference with
  | case1 offset ours a reference ih => simp [ih]
  | case2 offset a ours b reference hab => simp [hab, Ne.symm hab]
  | case3 ours offset reference hend =>
    refine iff_of_true rfl ?_
    cases ours with
    | nil => exact .inl List.nil_prefix
    | cons a ours =>
      cases reference with
      | nil => exact .inr List.nil_prefix
      | cons b reference => exact (hend _ _ _ _ rfl rfl).elim

/-- What is found is the first position of all at which the two differ. -/
theorem isLeast_of_first? {ours reference : Bytes} {d : Difference}
    (h : first? 0 ours reference = some d) :
    IsLeast {i | At ours reference i} d.offset ∧ ours[d.offset]? = some d.ours ∧
      reference[d.offset]? = some d.reference ∧ d.ours ≠ d.reference ∧
      ours.take d.offset = reference.take d.offset := by
  obtain ⟨common, rest, rest', rfl, rfl, hne, hoffset⟩ := first?_eq_some_iff.mp h
  rw [Nat.zero_add] at hoffset
  have hours : (common ++ d.ours :: rest)[d.offset]? = some d.ours := by
    simp [hoffset]
  have hreference : (common ++ d.reference :: rest')[d.offset]? = some d.reference := by
    simp [hoffset]
  refine ⟨⟨⟨_, _, hours, hreference, hne⟩, ?_⟩, hours, hreference, hne, ?_⟩
  · rintro i ⟨a, b, ha, hb, hab⟩
    -- in front of it stands the common part, where the two agree
    by_contra hlt
    have hi : i < common.length := by omega
    rw [List.getElem?_append_left hi] at ha hb
    exact hab (Option.some.inj (ha.symm.trans hb))
  · rw [hoffset, List.take_left, List.take_left]

/-- Something is found exactly where there is a position at which the two differ. -/
theorem isSome_first? {ours reference : Bytes} :
    (∃ d, first? 0 ours reference = some d) ↔ ∃ i, At ours reference i := by
  constructor
  · rintro ⟨d, hd⟩
    exact ⟨d.offset, (isLeast_of_first? hd).1.1⟩
  · rintro ⟨i, a, b, ha, hb, hab⟩
    rw [← Option.ne_none_iff_exists', ne_eq, first?_eq_none_iff]
    rintro (hfront | hfront)
    · exact hab (Option.some.inj ((getElem?_of_front hfront ha).symm.trans hb))
    · exact hab (Option.some.inj (ha.symm.trans (getElem?_of_front hfront hb)))

/-- Two that differ although none of their positions does: one is a proper beginning of the other,
    and so it is shorter. -/
theorem first?_eq_none_iff_of_ne {ours reference : Bytes} (hne : reference ≠ ours) :
    first? 0 ours reference = none ↔
      ours <+: reference ∧ ours ≠ reference ∨ reference <+: ours ∧ reference ≠ ours := by
  rw [first?_eq_none_iff]
  simp [hne, hne.symm]

/-- Two that differ at no position have different lengths: a beginning of the same length would be
    the whole. -/
theorem length_ne_of_first? {ours reference : Bytes} (hne : reference ≠ ours)
    (h : first? 0 ours reference = none) : ours.length ≠ reference.length := by
  intro hlength
  rcases first?_eq_none_iff.mp h with hfront | hfront
  · exact hne (hfront.eq_of_length hlength).symm
  · exact hne (hfront.eq_of_length hlength.symm)

/-- What there is to tell about two byte strings that are not the same: the first position at which
    they differ, with both bytes, or that one of them is a proper beginning of the other. -/
structure Tells (ours reference : Bytes) (diff : Option Difference) : Prop where
  some_iff : (∃ d, diff = some d) ↔ ∃ i, At ours reference i
  least : ∀ d, diff = some d → IsLeast {i | At ours reference i} d.offset
  ours_eq : ∀ d, diff = some d → ours[d.offset]? = some d.ours
  reference_eq : ∀ d, diff = some d → reference[d.offset]? = some d.reference
  ne : ∀ d, diff = some d → d.ours ≠ d.reference
  take_eq : ∀ d, diff = some d → ours.take d.offset = reference.take d.offset
  none_iff : diff = none ↔
    ours <+: reference ∧ ours ≠ reference ∨ reference <+: ours ∧ reference ≠ ours
  length_ne : diff = none → ours.length ≠ reference.length

/-- What the search finds is what there is to tell about the two, in every respect. -/
theorem tells_first? {ours reference : Bytes} (hne : reference ≠ ours) :
    Tells ours reference (first? 0 ours reference) where
  some_iff := isSome_first?
  least _ hd := (isLeast_of_first? hd).1
  ours_eq _ hd := (isLeast_of_first? hd).2.1
  reference_eq _ hd := (isLeast_of_first? hd).2.2.1
  ne _ hd := (isLeast_of_first? hd).2.2.2.1
  take_eq _ hd := (isLeast_of_first? hd).2.2.2.2
  none_iff := first?_eq_none_iff_of_ne hne
  length_ne := length_ne_of_first? hne

/-- There is no other way to tell it: a first difference has the least position, which there is only
    one of, and the bytes that stand there. -/
theorem tells_iff {ours reference : Bytes} (hne : reference ≠ ours) {diff : Option Difference} :
    Tells ours reference diff ↔ diff = first? 0 ours reference := by
  have hfirst := tells_first? hne
  constructor
  · intro h
    cases diff with
    | none => exact (hfirst.none_iff.mpr (h.none_iff.mp rfl)).symm
    | some d =>
      obtain ⟨d', hd'⟩ := hfirst.some_iff.mpr (h.some_iff.mp ⟨d, rfl⟩)
      -- both are least positions, and the bytes are those at the position
      have hoffset : d.offset = d'.offset := (h.least d rfl).unique (hfirst.least d' hd')
      have hours : d.ours = d'.ours :=
        Option.some.inj ((h.ours_eq d rfl).symm.trans (hoffset ▸ hfirst.ours_eq d' hd'))
      have hreference : d.reference = d'.reference :=
        Option.some.inj ((h.reference_eq d rfl).symm.trans (hoffset ▸ hfirst.reference_eq d' hd'))
      obtain ⟨offset, a, b⟩ := d
      obtain rfl : offset = d'.offset := hoffset
      obtain rfl : a = d'.ours := hours
      obtain rfl : b = d'.reference := hreference
      exact hd'.symm
  · rintro rfl
    exact hfirst

end Difference

/-! ## Verdicts -/

namespace Verdict

/-- The finding of a difference that is one fails, since it compares two bytes, or two lengths, that
    are not the same. -/
theorem differenceFinding_passed {ours reference : Bytes} {diff : Option Difference}
    (h : Difference.Tells ours reference diff) :
    (differenceFinding ours.length reference.length diff).passed = false := by
  rw [← Bool.not_eq_true, Finding.passed_iff]
  cases diff with
  | none =>
    show ¬ Observed.length reference.length = .length ours.length
    rw [Observed.length.injEq]
    exact (h.length_ne rfl).symm
  | some d =>
    show ¬ Observed.bytes [d.reference] = .bytes [d.ours]
    simp only [Observed.bytes.injEq, List.cons.injEq, and_true]
    exact (h.ne d rfl).symm

/-- A verdict says that an oracle is unavailable just where the oracle says so, for the reason that
    it gives. -/
theorem ofAnswer_eq_unavailable_iff {ours : Bytes} {answer : OracleAnswer} {reason : String} :
    ofAnswer ours answer = unavailable reason ↔ answer = .error ⟨reason⟩ := by
  cases answer with
  | error u =>
    rw [ofAnswer, unavailable.injEq, Except.error.injEq, Unavailable.mk.injEq]
  | ok reference =>
    rw [ofAnswer]
    split <;> simp

/-- It says that the bytes are identical just where the oracle gave the bytes that are ours, and
    then it says how many they are. -/
theorem ofAnswer_eq_identical_iff {ours : Bytes} {answer : OracleAnswer} {n : Nat} :
    ofAnswer ours answer = identical n ↔ answer = .ok ours ∧ n = ours.length := by
  cases answer with
  | error u => simp [ofAnswer]
  | ok reference =>
    by_cases h : reference = ours
    · rw [ofAnswer, if_pos h, identical.injEq, h]
      simp [eq_comm]
    · simp [ofAnswer, h]

/-- A verdict is against our bytes where the oracle gave others, and tells about the two. -/
theorem ofAnswer_eq_different_iff {ours : Bytes} {answer : OracleAnswer} {n m : Nat}
    {diff : Option Difference} :
    ofAnswer ours answer = different n m diff ↔
      ∃ reference, answer = .ok reference ∧ reference ≠ ours ∧ n = ours.length ∧
        m = reference.length ∧ Difference.Tells ours reference diff := by
  cases answer with
  | error u => simp [ofAnswer]
  | ok reference =>
    rw [ofAnswer]
    by_cases h : reference = ours
    · rw [if_pos h]
      simp [h]
    · rw [if_neg h, different.injEq]
      constructor
      · rintro ⟨rfl, rfl, rfl⟩
        exact ⟨reference, rfl, h, rfl, rfl, Difference.tells_first? h⟩
      · -- the reference is the one that was given, and what tells about it is what the search finds
        rintro ⟨found, heq, -, rfl, rfl, htells⟩
        obtain rfl := Except.ok.inj heq
        exact ⟨rfl, rfl, ((Difference.tells_iff h).mp htells).symm⟩

/-- Of the three verdicts, that of a difference has a finding, and the other two have none. -/
theorem exists_finding?_iff {v : Verdict} :
    (∃ f, v.finding? = some f) ↔ ∃ n m diff, v = different n m diff := by
  cases v <;> simp [finding?]

/-- A verdict that comes from an oracle's answer has no finding that passes. -/
theorem passed_of_finding?_ofAnswer {ours : Bytes} {answer : OracleAnswer} {f : Finding}
    (h : (ofAnswer ours answer).finding? = some f) : f.passed = false := by
  obtain ⟨n, m, diff, hverdict⟩ := exists_finding?_iff.mp ⟨f, h⟩
  obtain ⟨reference, -, -, rfl, rfl, htells⟩ := ofAnswer_eq_different_iff.mp hverdict
  rw [hverdict] at h
  obtain rfl : differenceFinding ours.length reference.length diff = f := Option.some.inj h
  exact differenceFinding_passed htells

/-- **A verdict is exact, and an objection fails.**  An oracle is unavailable for just the reason
    that it gives, and the verdict is that the bytes are identical exactly if the oracle gave just
    them.  Otherwise it gave others, and the verdict records both lengths and all that there is to
    tell about the two.  Only then there is a finding, and it never passes. -/
theorem ask_exact (oracle : String → OracleAnswer) (wat : String) (ours : Bytes) :
    (∀ reason, ask oracle wat ours = unavailable reason ↔ oracle wat = .error ⟨reason⟩) ∧
    (∀ n, ask oracle wat ours = identical n ↔ oracle wat = .ok ours ∧ n = ours.length) ∧
    (∀ n m diff, ask oracle wat ours = different n m diff ↔
      ∃ reference, oracle wat = .ok reference ∧ reference ≠ ours ∧ n = ours.length ∧
        m = reference.length ∧ Difference.Tells ours reference diff) ∧
    ((∃ f, (ask oracle wat ours).finding? = some f) ↔
      ∃ n m diff, ask oracle wat ours = different n m diff) ∧
    (∀ f, (ask oracle wat ours).finding? = some f → f.passed = false) := by
  refine ⟨fun reason => ?_, fun n => ?_, fun n m diff => ?_, exists_finding?_iff, fun f h => ?_⟩
  · exact ofAnswer_eq_unavailable_iff
  · exact ofAnswer_eq_identical_iff
  · exact ofAnswer_eq_different_iff
  · exact passed_of_finding?_ofAnswer h

/-- A beginning of the reference differs from it at no position, and yet objects. -/
example : ask (fun _ => .ok [0x00, 0x61]) "(module)" [0x00] = different 1 2 none ∧
    ((ask (fun _ => .ok [0x00, 0x61]) "(module)" [0x00]).finding?.map Finding.passed)
      = some false := by
  decide

end Verdict

/-! ## Reports -/

namespace Report

/-- The finding that a report fails by: the first one that fails, or else that of the oracle's
    verdict. -/
def FailsBy (r : Report) (f : Finding) : Prop :=
  (∃ front rest, r.findings = front ++ f :: rest ∧ (∀ g ∈ front, g.expected = g.actual) ∧
    f.expected ≠ f.actual) ∨
  ((∀ g ∈ r.findings, g.expected = g.actual) ∧
    ∃ verdict, r.oracle = some verdict ∧ verdict.finding? = some f)

/-- The first failure is a finding that fails behind findings that do not. -/
theorem head?_failures_eq_some_iff {r : Report} {f : Finding} :
    r.failures.head? = some f ↔
      ∃ front rest, r.findings = front ++ f :: rest ∧ (∀ g ∈ front, g.expected = g.actual) ∧
        f.expected ≠ f.actual := by
  simp only [failures, List.head?_filter, List.find?_eq_some_iff_append, Bool.not_not,
    Bool.not_eq_true', ← Bool.not_eq_true, Finding.passed_iff, ne_eq]
  constructor
  · rintro ⟨hf, front, rest, hsplit, hfront⟩
    exact ⟨front, rest, hsplit, hfront, hf⟩
  · rintro ⟨front, rest, hsplit, hfront, hf⟩
    exact ⟨hf, front, rest, hsplit, hfront⟩

/-- There is no first failure where every finding has seen what it expected. -/
theorem head?_failures_eq_none_iff {r : Report} :
    r.failures.head? = none ↔ ∀ f ∈ r.findings, f.expected = f.actual := by
  simp only [failures, List.head?_filter, List.find?_eq_none, Bool.not_eq_true', Bool.not_eq_false,
    Finding.passed_iff]

/-- The verdicts that object are those that tell a difference. -/
theorem objection?_eq_none_iff {r : Report} :
    r.objection? = none ↔ ∀ n m diff, r.oracle ≠ some (.different n m diff) := by
  rw [objection?]
  cases r.oracle with
  | none => simp
  | some verdict =>
    rw [Option.bind_some, Option.eq_none_iff_forall_ne_some, ← not_exists,
      Verdict.exists_finding?_iff]
    simp

/-- What `result` looks for is the finding that the report fails by. -/
theorem failsBy_iff {r : Report} {f : Finding} :
    r.failures.head?.or r.objection? = some f ↔ r.FailsBy f := by
  rw [Option.or_eq_some_iff, head?_failures_eq_some_iff, head?_failures_eq_none_iff, objection?,
    Option.bind_eq_some_iff]
  rfl

/-- A report ends with an error exactly where a finding fails it, and the error is about that
    finding. -/
theorem result_eq_error_iff {r : Report} {e : Error} :
    r.result = .error e ↔ ∃ f, r.FailsBy f ∧ e = .mismatch f := by
  simp only [← failsBy_iff]
  rw [result]
  cases r.failures.head?.or r.objection? with
  | none => simp
  | some f => simp [eq_comm]

/-- There is no finding to fail by exactly where the report passes. -/
theorem passed_eq_false_iff {r : Report} : r.passed = false ↔ ∃ f, r.FailsBy f := by
  rw [← Bool.not_eq_true, passed_iff_findings]
  simp only [← failsBy_iff, ← Option.ne_none_iff_exists', ne_eq, Option.or_eq_none_iff,
    head?_failures_eq_none_iff, Finding.passed_iff]

/-- The result is a report just where the report passes, and then it is the same report. -/
theorem result_eq_ok_iff {r r' : Report} : r.result = .ok r' ↔ r.passed = true ∧ r' = r := by
  have hpassed : r.passed = true ↔ r.failures.head?.or r.objection? = none := by
    rw [← Bool.not_eq_false, passed_eq_false_iff]
    simp only [← failsBy_iff, ← Option.ne_none_iff_exists', ne_eq, not_not]
  rw [hpassed, result]
  cases r.failures.head?.or r.objection? with
  | none => simp [eq_comm]
  | some f => simp

end Report

/-- The finding that the report of an audit fails by does fail. -/
theorem Audit.passed_of_failsBy {encoded : Encoded} {expected : Bytes}
    {answer : Option OracleAnswer} {r : Report} {f : Finding}
    (haudit : audit encoded expected answer = .ok r) (h : r.FailsBy f) : f.passed = false := by
  rcases h with ⟨front, rest, -, -, hf⟩ | ⟨-, verdict, hverdict, hfinding⟩
  · rw [← Bool.not_eq_true, Finding.passed_iff]
    exact hf
  · -- the verdict is that on the answer, whatever the findings are
    obtain ⟨index, -, -, horacle⟩ := exists_of_audit haudit
    rw [horacle] at hverdict
    obtain ⟨given, -, rfl⟩ := Option.map_eq_some_iff.mp hverdict
    exact Verdict.passed_of_finding?_ofAnswer hfinding

namespace Report

/-- **Both decisions of a report agree.**  A report passes exactly if every finding has seen what it
    expected and there is no verdict of a difference, and then the result is the report as it was.
    Otherwise there is a finding to fail by, the first one that fails or else that of the verdict,
    and the result is the error that holds it.  Where an audit made the report, that finding does
    fail. -/
theorem decisions_agree (r : Report) :
    (∀ r', r.result = .ok r' ↔ r.passed = true ∧ r' = r) ∧
    (r.passed = true ↔ (∀ f ∈ r.findings, f.expected = f.actual) ∧
      ∀ n m diff, r.oracle ≠ some (.different n m diff)) ∧
    (r.passed = false ↔ ∃ f, r.FailsBy f) ∧
    (∀ e, r.result = .error e ↔ ∃ f, r.FailsBy f ∧ e = .mismatch f) ∧
    (∀ encoded expected answer, Audit.audit encoded expected answer = .ok r →
      ∀ f, r.result = .error (.mismatch f) → f.passed = false) := by
  refine ⟨fun r' => result_eq_ok_iff, ?_, passed_eq_false_iff, fun e => result_eq_error_iff,
    fun encoded expected answer haudit f hresult => ?_⟩
  · rw [passed_iff_findings, objection?_eq_none_iff]
    simp only [Finding.passed_iff]
  · obtain ⟨g, hg, heq⟩ := result_eq_error_iff.mp hresult
    obtain rfl := Error.mismatch.inj heq
    exact Audit.passed_of_failsBy haudit hg

end Report

end WasmBinary
