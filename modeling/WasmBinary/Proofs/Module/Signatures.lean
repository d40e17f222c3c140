/-
  Function types are kept once.

  1. **One step** — a declaration either puts a function type behind the others, and then it was not
     among them, or it leaves the types as they are, and then a function type it may have asked for
     was there (`types_attempt_cases`).  What a run keeps is read off this one lemma.

  2. **A run** — so the types never repeat (`nodup_types_after`), they are those that were asked
     for (`mem_types_after_iff`), and each of them was put in its place by the first call that asked
     for it (`exists_first_call`).

  3. **Indices** — a call is given the place where its type stands at once (`answer_funcType`).
     Types are never taken back, so the type stands there in the end (`Interns.getElem?_types`), and
     as types do not repeat, the index tells the type and the type the index.
-/
import WasmBinary.Proofs.Module.Discipline

namespace WasmBinary

namespace Builder

/-! ## One step -/

/-- What one step does to the types. -/
theorem types_attempt_cases (b : Builder) (step : Declaration) :
    (∃ t, step = .funcType t ∧ t ∉ b.draft.types ∧
      (b.attempt step).2.draft.types = b.draft.types ++ [t]) ∨
    ((∀ t, step = .funcType t → t ∈ b.draft.types) ∧
      (b.attempt step).2.draft.types = b.draft.types) := by
  cases step with
  | funcType t =>
    have hattempt : (b.attempt (.funcType t)).2 = (b.funcType t).2 := rfl
    rw [hattempt]
    rcases b.funcType_cases t with ⟨place, hplace, h⟩ | ⟨hnew, h⟩
    · rw [h]
      refine Or.inr ⟨?_, rfl⟩
      rintro u ⟨⟩
      exact List.mem_of_getElem? hplace
    · rw [h]
      exact Or.inl ⟨t, rfl, hnew, rfl⟩
  | importFunc source field typ =>
    refine Or.inr ⟨?_, (b.attempt_import_keeps ⟨source, field, .func typ⟩).1⟩
    rintro t ⟨⟩
  | importMemory source field limits =>
    refine Or.inr ⟨?_, (b.attempt_import_keeps ⟨source, field, .mem limits⟩).1⟩
    rintro t ⟨⟩
  | _ =>
    refine Or.inr ⟨?_, rfl⟩
    rintro t ⟨⟩

/-- The index that is handed out for a type is its place behind the step. -/
theorem answer_funcType (b : Builder) (t : FuncType) :
    ∃ place, (b.attempt (.funcType t)).1 = .ok (some (UInt32.ofNat place)) ∧
      (b.attempt (.funcType t)).2.draft.types[place]? = some t := by
  have hattempt : b.attempt (.funcType t) = (.ok (some (b.funcType t).1), (b.funcType t).2) := rfl
  rw [hattempt]
  rcases b.funcType_cases t with ⟨place, hplace, h⟩ | ⟨-, h⟩
  · rw [h]
    exact ⟨place, rfl, hplace⟩
  · rw [h]
    exact ⟨b.draft.types.length, rfl, List.getElem?_concat_length⟩

/-! ## A run -/

/-- Types that do not repeat do not repeat after a step. -/
theorem nodup_types_attempt {b : Builder} (h : b.draft.types.Nodup) (step : Declaration) :
    (b.attempt step).2.draft.types.Nodup := by
  rcases b.types_attempt_cases step with ⟨t, -, hnew, htypes⟩ | ⟨-, htypes⟩
  · rw [htypes, List.nodup_append]
    refine ⟨h, List.pairwise_singleton _ t, ?_⟩
    intro u hu v hv huv
    rw [List.mem_singleton.mp hv] at huv
    exact hnew (huv ▸ hu)
  · rw [htypes]
    exact h

/-- A history keeps types different that were different, as no step registers one that is there. -/
theorem nodup_types_after {b : Builder} (h : b.draft.types.Nodup) (steps : List Declaration) :
    (after b steps).draft.types.Nodup := by
  induction steps generalizing b with
  | nil => exact h
  | cons step steps ih => exact ih (nodup_types_attempt h step)

/-- A step adds the type that it asks for, and no other. -/
theorem mem_types_attempt_iff (b : Builder) (step : Declaration) (t : FuncType) :
    t ∈ (b.attempt step).2.draft.types ↔ t ∈ b.draft.types ∨ step = .funcType t := by
  rcases b.types_attempt_cases step with ⟨u, rfl, -, htypes⟩ | ⟨hknown, htypes⟩
  · rw [htypes, List.mem_append, List.mem_singleton, Declaration.funcType.injEq, eq_comm]
  · rw [htypes]
    constructor
    · exact Or.inl
    · rintro (hmem | hstep)
      · exact hmem
      · exact hknown t hstep

/-- The types are those that were there and those that were asked for. -/
theorem mem_types_after_iff (b : Builder) (steps : List Declaration) (t : FuncType) :
    t ∈ (after b steps).draft.types ↔ t ∈ b.draft.types ∨ .funcType t ∈ steps := by
  induction steps generalizing b with
  | nil =>
    have hnone : Declaration.funcType t ∉ [] := List.not_mem_nil
    rw [after, or_iff_left hnone]
  | cons step steps ih =>
    rw [after, ih, mem_types_attempt_iff, List.mem_cons, or_assoc, eq_comm]

/-- A type stays in its place. -/
theorem getElem?_types_after {b : Builder} {p : Nat} {t : FuncType}
    (h : b.draft.types[p]? = some t) (steps : List Declaration) :
    (after b steps).draft.types[p]? = some t := by
  obtain ⟨added, hadded⟩ := types_after b steps
  have hp : p < b.draft.types.length := (List.getElem?_eq_some_iff.mp h).1
  rw [← hadded, List.getElem?_append_left hp]
  exact h

/-- A type that a run has added was put in its place by a call that asked for it, when the places
    before it were taken and none behind it. -/
theorem exists_first_call {b : Builder} {steps : List Declaration} {p : Nat} {t : FuncType}
    (hp : (after b steps).draft.types[p]? = some t) (hnew : b.draft.types.length ≤ p) :
    ∃ i : Nat, steps[i]? = some (.funcType t) ∧
      (after b (steps.take (i + 1))).draft.types.length = p + 1 := by
  induction steps generalizing b with
  | nil =>
    rw [after, List.getElem?_eq_none hnew] at hp
    cases hp
  | cons step steps ih =>
    rw [after] at hp
    rcases Nat.lt_or_ge p (b.attempt step).2.draft.types.length with hlt | hge
    · rcases b.types_attempt_cases step with ⟨u, rfl, -, htypes⟩ | ⟨-, htypes⟩
      · -- the first step has added a type, in the place that is looked at
        have hlength : (b.attempt (.funcType u)).2.draft.types.length
            = b.draft.types.length + 1 := by
          rw [htypes, List.length_append, List.length_singleton]
        obtain rfl : p = b.draft.types.length := by omega
        have hplace : (b.attempt (.funcType u)).2.draft.types[b.draft.types.length]? = some u := by
          rw [htypes]
          exact List.getElem?_concat_length
        obtain rfl : u = t :=
          Option.some.inj ((getElem?_types_after hplace steps).symm.trans hp)
        exact ⟨0, rfl, hlength⟩
      · rw [htypes] at hlt
        omega
    · obtain ⟨i, hi, hlength⟩ := ih hp hge
      exact ⟨i + 1, hi, hlength⟩

/-! ## The whole life of a builder -/

section Whole

variable {steps : List Declaration}

/-- A finished module has no type twice. -/
theorem nodup_types_finish (steps : List Declaration) : (after {} steps).finish.types.Nodup :=
  nodup_types_after List.nodup_nil steps

/-- A type that stands before another one was asked for before it. -/
theorem asked_before {p q : Nat} {t u : FuncType}
    (hp : (after {} steps).finish.types[p]? = some t)
    (hq : (after {} steps).finish.types[q]? = some u) (hpq : p < q) :
    ∃ i : Nat, steps[i]? = some (.funcType t) ∧ ∀ j ≤ i, steps[j]? ≠ some (.funcType u) := by
  obtain ⟨i, hi, hlength⟩ := exists_first_call hp (Nat.zero_le p)
  refine ⟨i, hi, ?_⟩
  intro j hj hasked
  have hmem : u ∈ (after {} (steps.take (i + 1))).draft.types := by
    refine (mem_types_after_iff {} _ u).mpr (Or.inr (List.mem_iff_getElem?.mpr ⟨j, ?_⟩))
    rw [List.getElem?_take_of_lt (Nat.lt_succ_of_le hj)]
    exact hasked
  obtain ⟨r, hr⟩ := List.mem_iff_getElem?.mp hmem
  have hrp : r < p + 1 := hlength ▸ (List.getElem?_eq_some_iff.mp hr).1
  -- so `u` has a second place
  have hkept := getElem?_types_after hr (steps.drop (i + 1))
  rw [← after_append, List.take_append_drop] at hkept
  have hrlt : r < (after {} steps).draft.types.length := (List.getElem?_eq_some_iff.mp hkept).1
  have hsame : r = q :=
    (List.getElem?_inj hrlt (nodup_types_finish steps)).mp (hkept.trans hq.symm)
  omega

/-- A call of a history has asked for a function type, and the index that it was given. -/
def Interns (history : List Call) (i : Nat) (t : FuncType) (idx : TypeIdx) : Prop :=
  ∃ call, history[i]? = some call ∧ call.step = .funcType t ∧ call.answer = .ok (some idx)

/-- A call that asks for a type is always given an index. -/
theorem exists_interns {i : Nat} {t : FuncType} (h : steps[i]? = some (.funcType t)) :
    ∃ idx, Interns (calls {} steps) i t idx := by
  obtain ⟨place, hanswer, -⟩ := (after {} (steps.take i)).answer_funcType t
  refine ⟨UInt32.ofNat place, ⟨.funcType t, _⟩, ?_, rfl, hanswer⟩
  rw [getElem?_calls, h]
  rfl

/-- In the end the type stands where the index says. -/
theorem Interns.getElem?_types {i : Nat} {t : FuncType} {idx : TypeIdx}
    (hfew : (after {} steps).finish.types.length < 2 ^ 32) (h : Interns (calls {} steps) i t idx) :
    (after {} steps).finish.types[idx.toNat]? = some t := by
  obtain ⟨call, hcall, ht, hanswer⟩ := h
  rw [getElem?_calls, Option.map_eq_some_iff] at hcall
  obtain ⟨step, hstep, rfl⟩ := hcall
  obtain rfl : step = .funcType t := ht
  obtain ⟨place, hplace, htypes⟩ := (after {} (steps.take i)).answer_funcType t
  obtain rfl : UInt32.ofNat place = idx :=
    Option.some.inj (Except.ok.inj (hplace.symm.trans hanswer))
  rw [← after_take_succ {} hstep] at htypes
  have hkept := getElem?_types_after htypes (steps.drop (i + 1))
  rw [← after_append, List.take_append_drop] at hkept
  have hlt : place < (after {} steps).finish.types.length :=
    (List.getElem?_eq_some_iff.mp hkept).1
  rw [UInt32.toNat_ofNat_of_lt' (Nat.lt_trans hlt hfew)]
  exact hkept

/-- Two calls are given the same index exactly if they ask for the same type. -/
theorem Interns.eq_iff {i j : Nat} {t u : FuncType} {idx idx' : TypeIdx}
    (hfew : (after {} steps).finish.types.length < 2 ^ 32) (ht : Interns (calls {} steps) i t idx)
    (hu : Interns (calls {} steps) j u idx') : idx = idx' ↔ t = u := by
  have hplace := ht.getElem?_types hfew
  have hplace' := hu.getElem?_types hfew
  constructor
  · rintro rfl
    exact Option.some.inj (hplace.symm.trans hplace')
  · rintro rfl
    have hlt := (List.getElem?_eq_some_iff.mp hplace).1
    exact UInt32.toNat_inj.mp
      ((List.getElem?_inj hlt (nodup_types_finish steps)).mp (hplace.trans hplace'.symm))

/-- **Function types are kept once, under one index.**  Whatever the client declares, and whatever
    fails, every call that asks for a type is given the index under which the type stands in the
    finished module; two calls are given one index exactly if parameters and results are the same;
    and the module holds what was asked for, each type once, in the order of the first calls. -/
theorem signatures_interned (steps : List Declaration)
    (hfew : (after {} steps).finish.types.length < 2 ^ 32) :
    let history := calls {} steps
    let types := (after {} steps).finish.types
    types.Nodup ∧
    (∀ (i : Nat) (t : FuncType), steps[i]? = some (.funcType t) →
      ∃ idx, Interns history i t idx ∧ types[idx.toNat]? = some t) ∧
    (∀ (i j : Nat) (t u : FuncType) (idx idx' : TypeIdx),
      Interns history i t idx → Interns history j u idx' →
        (idx = idx' ↔ t.params = u.params ∧ t.results = u.results)) ∧
    (∀ t, t ∈ types ↔ .funcType t ∈ steps) ∧
    (∀ (p q : Nat) (t u : FuncType), types[p]? = some t → types[q]? = some u → p < q →
      ∃ i : Nat, steps[i]? = some (.funcType t) ∧
        ∀ j ≤ i, steps[j]? ≠ some (.funcType u)) := by
  refine ⟨nodup_types_finish steps, ?index, ?same, ?image, ?order⟩
  case index =>
    intro i t hstep
    obtain ⟨idx, hidx⟩ := exists_interns hstep
    exact ⟨idx, hidx, hidx.getElem?_types hfew⟩
  case same =>
    intro i j t u idx idx' ht hu
    rw [ht.eq_iff hfew hu]
    constructor
    · rintro rfl
      exact ⟨rfl, rfl⟩
    · rintro ⟨hparams, hresults⟩
      cases t
      cases u
      exact congrArg₂ FuncType.mk hparams hresults
  case image =>
    intro t
    have hnone : t ∉ ({} : Builder).draft.types := List.not_mem_nil
    rw [finish, mem_types_after_iff, or_iff_right hnone]
  case order =>
    intro p q t u hp hq hpq
    exact asked_before hp hq hpq

end Whole

/-- One signature asked for twice, with a mirrored one and an import that comes too late between. -/
def mirrored : List Declaration :=
  [.funcType ⟨[.i32], []⟩, .func ⟨0, [], []⟩, .importFunc "env" "late" 0, .funcType ⟨[], [.i32]⟩,
    .memory ⟨1, none⟩, .funcType ⟨[.i32], []⟩, .exportFunc "f" 0]

/-- A type and its mirror image are two types, and the first one is given its index once more when
    it is asked for again. -/
theorem signatures_interned_mirrored :
    (after {} mirrored).finish.types.length < 2 ^ 32 ∧
    Interns (calls {} mirrored) 0 ⟨[.i32], []⟩ 0 ∧ Interns (calls {} mirrored) 3 ⟨[], [.i32]⟩ 1 ∧
    Interns (calls {} mirrored) 5 ⟨[.i32], []⟩ 0 ∧
    (after {} mirrored).finish.types[0]? = some ⟨[.i32], []⟩ ∧
    ∃ i : Nat, mirrored[i]? = some (.funcType ⟨[.i32], []⟩) ∧
      ∀ j ≤ i, mirrored[j]? ≠ some (.funcType ⟨[], [.i32]⟩) := by
  have hfew : (after {} mirrored).finish.types.length < 2 ^ 32 := by decide
  have hfirst : Interns (calls {} mirrored) 0 ⟨[.i32], []⟩ 0 := ⟨_, rfl, rfl, rfl⟩
  have hother : Interns (calls {} mirrored) 3 ⟨[], [.i32]⟩ 1 := ⟨_, rfl, rfl, rfl⟩
  obtain ⟨-, hindex, hsame, -, horder⟩ := signatures_interned mirrored hfew
  obtain ⟨idx, hagain, hplace⟩ := hindex 5 ⟨[.i32], []⟩ rfl
  obtain rfl : idx = 0 := (hsame 5 0 _ _ _ _ hagain hfirst).mpr ⟨rfl, rfl⟩
  exact ⟨hfew, hfirst, hother, hagain, hplace, horder 0 1 _ _ rfl rfl Nat.zero_lt_one⟩

end Builder

end WasmBinary
