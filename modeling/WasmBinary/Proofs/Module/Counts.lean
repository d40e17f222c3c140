/-
  Counts of locals are right as long as no type is repeated 2^32 times, and no rule sees to that.

  1. **Counting with a check** — `countAll?` goes through the locals from the first to the last and
     gives up where a count would leave its word.  It gives up exactly where there is a stretch that
     needs more than a word, and otherwise answers with the runs that are written
     (`countAll?_eq_none_iff`, `countAll?_eq_some_iff`).

  2. **Adding up** — a run is a stretch cut down to a word.  So the counts that are written add up
     to the number of locals exactly if nothing was cut off (`sum_counts_eq_iff`).

  3. **Validation** — no rule looks at the locals, so a valid module stays valid whatever locals its
     functions are given (`validate_redeclare`).  One with 2^32 equal locals is accepted
     (`validate_full`), and written with a count of zero.
-/
import WasmBinary.Module.Validate
import WasmBinary.Proofs.Locals

namespace WasmBinary

/-! ## Counting with a check -/

/-- A stretch is there that needs more than a word. -/
def Stretch.Overflow (stretches : List Stretch) : Prop :=
  ∃ s ∈ stretches, 2 ^ 32 ≤ s.length

/-- Stretches do not overflow just if a word can count each of them. -/
theorem Stretch.not_overflow_iff {stretches : List Stretch} :
    ¬ Overflow stretches ↔ ∀ s ∈ stretches, s.length < 2 ^ 32 := by
  simp only [Overflow, not_exists, not_and, Nat.not_le]

namespace LocalRun

/-- Counts one more local behind the others, of which the latest run stands in front.  There is no
    answer if the count would leave its word. -/
def count? (runs : List LocalRun) (t : ValType) : Option (List LocalRun) :=
  match runs with
  | [] => some [⟨1, t⟩]
  | run :: rest =>
      if run.type = t then
        if run.count.toNat + 1 < UInt32.size then some (⟨run.count + 1, t⟩ :: rest) else none
      else some (⟨1, t⟩ :: run :: rest)

/-- Counts all locals, from the first to the last one. -/
def countAll? (locals : List ValType) : Option (List LocalRun) :=
  (locals.foldlM count? []).map List.reverse

/-- A local of the type of the first run counts it on, unless its word is full. -/
theorem count?_same (run : LocalRun) (rest : List LocalRun) :
    count? (run :: rest) run.type
      = if run.count.toNat + 1 < UInt32.size then some (push run.type (run :: rest)) else none := by
  simp only [count?, push, if_true]

/-- A local of another type starts a run of its own, which always has room. -/
theorem count?_other {run : LocalRun} {t : ValType} (h : run.type ≠ t) (rest : List LocalRun) :
    count? (run :: rest) t = some (push t (run :: rest)) := by
  simp only [count?, push, if_neg h]

/-- As long as all counts are words, one more local is counted if its stretch is still one. -/
theorem count?_ofStretch {stretches : List Stretch} (h : ¬ Stretch.Overflow stretches)
    (t : ValType) :
    (Stretch.Overflow (Stretch.push t stretches) → count? (stretches.map ofStretch) t = none) ∧
    (¬ Stretch.Overflow (Stretch.push t stretches) →
      count? (stretches.map ofStretch) t = some ((Stretch.push t stretches).map ofStretch)) := by
  rw [← push_ofStretch]
  cases stretches with
  | nil =>
    refine ⟨?_, fun _ => rfl⟩
    rintro ⟨s, hs, hlong⟩
    obtain rfl := List.mem_singleton.mp hs
    exact absurd hlong (Nat.not_le.mpr (Nat.one_lt_two_pow' 31))
  | cons s rest =>
    obtain ⟨hs, hrest⟩ := List.forall_mem_cons.mp (Stretch.not_overflow_iff.mp h)
    by_cases ht : s.type = t
    · subst ht
      -- nothing was cut off the stretch so far, so its run is as long as it is
      have hcount : (ofStretch s).count.toNat = s.length := UInt32.toNat_ofNat_of_lt' hs
      have hstep := count?_same (ofStretch s) (rest.map ofStretch)
      rw [hcount] at hstep
      rw [Stretch.push_same]
      constructor
      · rintro ⟨u, hu, hlong⟩
        rcases List.mem_cons.mp hu with rfl | hu
        · exact hstep.trans (if_neg (Nat.not_lt.mpr hlong))
        · exact absurd (hrest u hu) (Nat.not_lt.mpr hlong)
      · intro hfits
        have hword : s.length + 1 < UInt32.size :=
          Stretch.not_overflow_iff.mp hfits _ List.mem_cons_self
        exact hstep.trans (if_pos hword)
    · rw [Stretch.push_other ht]
      refine ⟨?_, fun _ => count?_other ht _⟩
      rintro ⟨u, hu, hlong⟩
      rcases List.mem_cons.mp hu with rfl | hu
      · exact absurd hlong (Nat.not_le.mpr (Nat.one_lt_two_pow' 31))
      · exact absurd ⟨u, hu, hlong⟩ h

/-- Counting from the first local on gives up where a stretch has overflowed; up to there it has the
    runs, backwards.  The induction is on the last local, which is the one that is counted last. -/
theorem foldlM_count? (locals : List ValType) :
    (Stretch.Overflow (Stretch.ofLocals locals.reverse) → locals.foldlM count? [] = none) ∧
    (¬ Stretch.Overflow (Stretch.ofLocals locals.reverse) →
      locals.foldlM count? [] = some ((Stretch.ofLocals locals.reverse).map ofStretch)) := by
  induction locals using List.reverseRecOn with
  | nil =>
    refine ⟨?_, fun _ => rfl⟩
    rintro ⟨s, hs, -⟩
    exact absurd hs List.not_mem_nil
  | append_singleton locals t ih =>
    obtain ⟨hnone, hsome⟩ := ih
    rw [List.reverse_append, List.reverse_singleton, List.singleton_append, Stretch.ofLocals_cons,
      List.foldlM_append]
    by_cases hbefore : Stretch.Overflow (Stretch.ofLocals locals.reverse)
    · have hafter : Stretch.Overflow (Stretch.push t (Stretch.ofLocals locals.reverse)) :=
        Stretch.exists_long_push hbefore t
      rw [hnone hbefore]
      exact ⟨fun _ => rfl, fun hfits => absurd hafter hfits⟩
    · rw [hsome hbefore]
      simp only [Option.bind_eq_bind, Option.bind_some, List.foldlM_cons, List.foldlM_nil,
        bind_pure]
      exact count?_ofStretch hbefore t

/-- The count is given up exactly where 2^32 equal locals stand side by side. -/
theorem countAll?_eq_none_iff {locals : List ValType} :
    countAll? locals = none ↔ ∃ t, List.replicate (2 ^ 32) t <:+: locals := by
  have hreverse : Stretch.Overflow (Stretch.ofLocals locals.reverse) ↔
      ∃ t, List.replicate (2 ^ 32) t <:+: locals := by
    rw [Stretch.ofLocals_reverse, ← Stretch.exists_long_iff (Nat.two_pow_pos 32)]
    simp only [Stretch.Overflow, List.mem_reverse]
  obtain ⟨hnone, hsome⟩ := foldlM_count? locals
  rw [countAll?, Option.map_eq_none_iff, ← hreverse]
  constructor
  · intro h
    by_contra hfits
    rw [hsome hfits] at h
    cases h
  · exact hnone

/-- A count that is not given up ends with the runs that are written. -/
theorem countAll?_eq_some_iff {locals : List ValType} {runs : List LocalRun} :
    countAll? locals = some runs ↔
      (∀ t, ¬ List.replicate (2 ^ 32) t <:+: locals) ∧ runs = group locals := by
  have hgroup : ∀ found, locals.foldlM count? [] = some found → found.reverse = group locals := by
    intro found hfound
    obtain ⟨hnone, hsome⟩ := foldlM_count? locals
    by_cases h : Stretch.Overflow (Stretch.ofLocals locals.reverse)
    · rw [hnone h] at hfound
      cases hfound
    · obtain rfl := Option.some.inj ((hsome h).symm.trans hfound)
      rw [Stretch.ofLocals_reverse, List.map_reverse, List.reverse_reverse, group_eq]
  rw [← not_exists, ← countAll?_eq_none_iff]
  constructor
  · intro h
    refine ⟨fun hnone => ?_, ?_⟩
    · rw [h] at hnone
      cases hnone
    · obtain ⟨found, hfound, hruns⟩ := Option.map_eq_some_iff.mp h
      exact hruns.symm.trans (hgroup found hfound)
  · rintro ⟨hcounted, rfl⟩
    obtain ⟨runs, hruns⟩ := Option.ne_none_iff_exists'.mp hcounted
    obtain ⟨found, hfound, hreverse⟩ := Option.map_eq_some_iff.mp hruns
    rw [hruns, ← hreverse, hgroup found hfound]

/-! ## Adding up -/

/-- Lengths that are cut down to words add up to no more, and to less as soon as one is cut. -/
theorem sum_cut (stretches : List Stretch) :
    sumOf (stretches.map fun s => s.length % 2 ^ 32) ≤ sumOf (stretches.map Stretch.length) ∧
    (sumOf (stretches.map fun s => s.length % 2 ^ 32) = sumOf (stretches.map Stretch.length) ↔
      ¬ Stretch.Overflow stretches) := by
  rw [Stretch.not_overflow_iff]
  induction stretches with
  | nil => exact ⟨Nat.le_refl 0, fun _ s hs => absurd hs List.not_mem_nil, fun _ => rfl⟩
  | cons s rest ih =>
    obtain ⟨hle, hiff⟩ := ih
    have hcut : s.length % 2 ^ 32 ≤ s.length := Nat.mod_le _ _
    have hkept : s.length % 2 ^ 32 = s.length ↔ s.length < 2 ^ 32 :=
      Nat.mod_eq_iff_lt (Nat.two_pow_pos 32).ne'
    rw [List.map_cons, List.map_cons, sumOf_cons, sumOf_cons, List.forall_mem_cons, ← hiff, ← hkept]
    omega

/-- The counts that are written add up to the number of locals exactly if there are never 2^32 equal
    locals side by side. -/
theorem sum_counts_eq_iff (locals : List ValType) :
    sumOf ((group locals).map fun run => run.count.toNat) = locals.length ↔
      ∀ t, ¬ List.replicate (2 ^ 32) t <:+: locals := by
  have hcounts : (group locals).map (fun run => run.count.toNat)
      = (Stretch.ofLocals locals).map fun s => s.length % 2 ^ 32 := by
    rw [group_eq, List.map_map]
    exact List.map_congr_left fun s _ => UInt32.toNat_ofNat'
  have hlength : sumOf ((Stretch.ofLocals locals).map Stretch.length) = locals.length := by
    rw [Stretch.sum_length, Stretch.expand_ofLocals]
  rw [hcounts, ← hlength, (sum_cut _).2, ← not_exists,
    ← Stretch.exists_long_iff (Nat.two_pow_pos 32)]
  rfl

end LocalRun

/-! ## Validation -/

namespace Module

/-- The same module with other locals in its functions. -/
def redeclare (m : Module) (locals : List ValType → List ValType) : Module :=
  { m with funcs := m.funcs.map fun f => { f with locals := locals f.locals } }

/-- No rule looks at the locals. -/
theorem validate_redeclare (m : Module) (locals : List ValType → List ValType) :
    (m.redeclare locals).validate = m.validate := by
  have hfuncs : (m.redeclare locals).funcs.findSome? (Func.violation? m.types.length)
      = m.funcs.findSome? (Func.violation? m.types.length) := by
    rw [redeclare, List.findSome?_map]
    rfl
  have hcount : (m.redeclare locals).funcCount = m.funcCount :=
    congrArg (m.importedFuncs.length + ·) (List.length_map _)
  have hviolation : (m.redeclare locals).violation? = m.violation? := by
    have htypes : (m.redeclare locals).types = m.types := rfl
    simp only [violation?, hcount, htypes, hfuncs]
    rfl
  rw [validate, validate, hviolation]

/-- **Counts are right exactly where no type is repeated 2^32 times, and validation does not see
    to that.**  Whatever the module, a count that is checked leaves its word exactly in a function
    with 2^32 equal locals side by side, and there alone the counts that are written do not add up
    to the number of locals; but whether a module is valid does not depend on its locals. -/
theorem locals_counted_iff (m : Module) :
    (∀ f ∈ m.funcs,
      (LocalRun.countAll? f.locals = none ↔ ∃ t, List.replicate (2 ^ 32) t <:+: f.locals) ∧
      (LocalRun.countAll? f.locals = some (LocalRun.group f.locals) ↔
        ∀ t, ¬ List.replicate (2 ^ 32) t <:+: f.locals) ∧
      (sumOf ((LocalRun.group f.locals).map fun run => run.count.toNat) = f.locals.length ↔
        ∀ t, ¬ List.replicate (2 ^ 32) t <:+: f.locals)) ∧
    ∀ locals : List ValType → List ValType, (m.redeclare locals).validate = m.validate := by
  refine ⟨fun f _ => ⟨LocalRun.countAll?_eq_none_iff, ?_, LocalRun.sum_counts_eq_iff f.locals⟩,
    m.validate_redeclare⟩
  rw [LocalRun.countAll?_eq_some_iff]
  exact and_iff_left rfl

/-- A module with one function, which has so many locals of one type. -/
def full (count : Nat) : Module :=
  ⟨[{}], [], [⟨0, List.replicate count .i32, []⟩], [], []⟩

/-- A module with a function of any number of locals keeps all the rules: none of them is about
    locals. -/
theorem validate_full (count : Nat) : (full count).validate = .ok () :=
  (validate_redeclare (full 0) fun _ => List.replicate count .i32).symm.trans rfl

/-- A valid module is written with a count of zero for 2^32 locals. -/
theorem write_full_wraps :
    (full (2 ^ 32)).encode = .ok (full (2 ^ 32)).write ∧
    ∃ f ∈ (full (2 ^ 32)).funcs, LocalRun.countAll? f.locals = none ∧
      LocalRun.group f.locals = [⟨0, .i32⟩] ∧
      sumOf ((LocalRun.group f.locals).map fun run => run.count.toNat) ≠ f.locals.length ∧
      f.encodeBody = [0x01, 0x00, 0x7F, 0x0B] := by
  have hlong : List.replicate (2 ^ 32) ValType.i32 <:+: List.replicate (2 ^ 32) .i32 :=
    List.infix_rfl
  have hgroup : LocalRun.group (List.replicate (2 ^ 32) .i32) = [⟨0, .i32⟩] := by
    have hone : Stretch.ofLocals (List.replicate (2 ^ 32) .i32 ++ []) = [⟨2 ^ 32, .i32⟩] :=
      Stretch.ofLocals_replicate_append_of_ne (Nat.two_pow_pos 32) fun s hs => nomatch hs
    rw [List.append_nil] at hone
    rw [LocalRun.group_eq, hone]
    rfl
  refine ⟨?_, ⟨0, List.replicate (2 ^ 32) .i32, []⟩, List.mem_singleton.mpr rfl,
    LocalRun.countAll?_eq_none_iff.mpr ⟨.i32, hlong⟩, hgroup, ?_, ?_⟩
  · rw [encode, validate_full]
    rfl
  · rw [ne_eq, LocalRun.sum_counts_eq_iff]
    exact fun hshort => hshort .i32 hlong
  · rw [Func.encodeBody, hgroup]
    show Vec.ofItems ([LocalRun.mk 0 .i32].map LocalRun.encode) ++ Expr.encode [] = _
    cbv

end Module

end WasmBinary
