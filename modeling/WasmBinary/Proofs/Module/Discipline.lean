/-
  A client who only passes on what it was given never fails to build.

  1. **Spaces** — whether a module is valid can be told from its index spaces: what each entry of
     them refers to, and whether the exports stay inside (`valid_of_spaces`).  So nothing has to be
     known about the lists in which imported and defined entries are kept apart.

  2. **What grows** — a step never takes a type back, and an export goes behind the others
     (`types_attempt`, `exports_attempt`).  So a type index that was handed out stays below the
     number of types (`Registers.lt`), and the exports are those that were called for, in order
     (`exports_after`).

  3. **Discipline** — what a client has to keep (`Disciplined`) is a condition on the history of
     its calls.  Every entry of an index space comes from a call (`space_finish`), and an index that
     a call has handed out stays right (`Declares.getElem?_space`), so the conditions on calls are
     the conditions on spaces of (1), and the build succeeds.
-/
import WasmBinary.Proofs.Module.Handles
import WasmBinary.Proofs.Module.Rules

namespace WasmBinary

/-! ## Spaces -/

namespace Entry

/-- The type that a function refers to. -/
def type? : Entry → Option TypeIdx
  | imported i => i.func?
  | func f => some f.typ
  | mem _ => none

/-- The limits of a memory. -/
def limits? : Entry → Option Limits
  | imported i => i.mem?
  | func _ => none
  | mem limits => some limits

end Entry

namespace Module

variable {m : Module}

/-- An import is an entry of the space of its own kind. -/
theorem mem_space_of_import {i : Import} (hi : i ∈ m.imports) : .imported i ∈ m.space i.kind :=
  List.mem_append_left _ (List.mem_map_of_mem (List.mem_filter.mpr ⟨hi, decide_eq_true rfl⟩))

/-- A function of the module is an entry of the functions' space. -/
theorem mem_space_of_func {f : Func} (hf : f ∈ m.funcs) : .func f ∈ m.space .func :=
  List.mem_append_right _ (List.mem_map_of_mem hf)

/-- And a memory is one of the memories' space. -/
theorem mem_space_of_mem {limits : Limits} (hl : limits ∈ m.mems) : .mem limits ∈ m.space .mem :=
  List.mem_append_right _ (List.mem_map_of_mem hl)

/-- Where all entries of the index spaces keep the rules, and the exports stay inside, a module is
    valid. -/
theorem valid_of_spaces
    (htypes : ∀ entry ∈ m.space .func, ∀ typ, entry.type? = some typ →
      typ.toNat < m.types.length)
    (hlimits : ∀ entry ∈ m.space .mem, ∀ limits, entry.limits? = some limits → limits.InRange)
    (hexports : ∀ e ∈ m.exports, e.idx.toNat < (m.space e.kind).length)
    (hnames : (m.exports.map Export.name).Nodup) (hone : (m.space .mem).length ≤ 1) :
    m.Valid where
  importTypes := fun i hi typ hdesc => by
    have hmem := mem_space_of_import hi
    rw [Import.kind, hdesc] at hmem
    exact htypes _ hmem typ (by rw [Entry.type?, Import.func?, hdesc])
  importLimits := fun i hi limits hdesc => by
    have hmem := mem_space_of_import hi
    rw [Import.kind, hdesc] at hmem
    exact hlimits _ hmem limits (by rw [Entry.limits?, Import.mem?, hdesc])
  funcTypes := fun f hf => htypes _ (mem_space_of_func hf) _ rfl
  memLimits := fun limits hl => hlimits _ (mem_space_of_mem hl) _ rfl
  exportFuncs := fun e he idx hdesc => by
    have hlt := hexports e he
    rw [Export.idx, Export.kind, hdesc, length_space_func] at hlt
    exact hlt
  exportMems := fun e he idx hdesc => by
    have hlt := hexports e he
    rw [Export.idx, Export.kind, hdesc, length_space_mem] at hlt
    exact hlt
  exportNames := hnames
  memories := by
    rw [length_space_mem] at hone
    exact hone

/-- A valid module is written as it is. -/
theorem Valid.encode (h : m.Valid) : m.encode = .ok m.write := by
  rw [Module.encode, validate_eq_ok_iff.mpr (violation?_eq_none_iff.mpr h)]
  rfl

end Module

/-! ## What grows -/

namespace Declaration

/-- The type index that is given to a step. -/
def type? : Declaration → Option TypeIdx
  | .importFunc _ _ typ => some typ
  | .func f => some f.typ
  | _ => none

/-- The export that a step calls for. -/
def export? : Declaration → Option Export
  | .exportFunc name idx => some ⟨name, .func idx⟩
  | .exportMemory name idx => some ⟨name, .mem idx⟩
  | _ => none

/-- The type of an entry is the one that its step was given. -/
theorem type?_of_entry? {step : Declaration} {kind : ExternKind} {entry : Entry} {typ : TypeIdx}
    (hentry : step.entry? kind = some entry) (htyp : entry.type? = some typ) :
    step.type? = some typ := by
  cases step <;> cases kind <;> cases hentry <;> exact htyp

end Declaration

namespace Builder

/-- An import leaves types and exports as they are. -/
theorem attempt_import_keeps (b : Builder) (i : Import) :
    (b.attempt i.step).2.draft.types = b.draft.types ∧
      (b.attempt i.step).2.draft.exports = b.draft.exports := by
  rw [attempt_import]
  split <;> exact ⟨rfl, rfl⟩

/-- An export goes behind the others, and nothing else changes them. -/
theorem exports_attempt (b : Builder) (step : Declaration) :
    (b.attempt step).2.draft.exports = b.draft.exports ++ step.export?.toList := by
  cases step with
  | funcType typ =>
    obtain ⟨idx, types, h⟩ := b.attempt_funcType typ
    rw [h]
    exact (List.append_nil _).symm
  | importFunc source field typ =>
    exact (b.attempt_import_keeps ⟨source, field, .func typ⟩).2.trans (List.append_nil _).symm
  | importMemory source field limits =>
    exact (b.attempt_import_keeps ⟨source, field, .mem limits⟩).2.trans (List.append_nil _).symm
  | func f => exact (List.append_nil _).symm
  | memory limits => exact (List.append_nil _).symm
  | exportFunc name idx => rfl
  | exportMemory name idx => rfl

/-- Behind a history there are the exports that it called for, in the order of the calls, whether or
    not other calls failed. -/
theorem exports_after (b : Builder) (steps : List Declaration) :
    (after b steps).draft.exports = b.draft.exports ++ steps.filterMap Declaration.export? := by
  induction steps generalizing b with
  | nil => exact (List.append_nil _).symm
  | cons step steps ih =>
    rw [after, ih, exports_attempt, List.append_assoc, List.filterMap_cons]
    cases step.export? <;> rfl

/-- A function type is found among the types or goes behind them, and its index is its place. -/
theorem funcType_cases (b : Builder) (typ : FuncType) :
    (∃ place, b.draft.types[place]? = some typ ∧ b.funcType typ = (UInt32.ofNat place, b)) ∨
    (typ ∉ b.draft.types ∧ b.funcType typ = (UInt32.ofNat b.draft.types.length,
      ⟨{ b.draft with types := b.draft.types ++ [typ] }⟩)) := by
  rw [funcType]
  cases hfind : b.draft.types.findIdx? (· == typ) with
  | some place =>
    obtain ⟨hplace, heq, -⟩ := List.findIdx?_eq_some_iff_getElem.mp hfind
    refine Or.inl ⟨place, ?_, rfl⟩
    rw [List.getElem?_eq_getElem hplace, eq_of_beq heq]
  | none =>
    refine Or.inr ⟨fun hmem => ?_, rfl⟩
    -- a type that is there would have been found
    have hne := List.findIdx?_eq_none_iff.mp hfind typ hmem
    exact Bool.false_ne_true (hne.symm.trans (beq_self_eq_true typ))

/-- The types that were there stay, and the index is that of a type. -/
theorem funcType_types (b : Builder) (typ : FuncType) :
    b.draft.types <+: (b.funcType typ).2.draft.types ∧
      (b.funcType typ).1.toNat < (b.funcType typ).2.draft.types.length := by
  have hword : ∀ n : Nat, (UInt32.ofNat n).toNat ≤ n := fun n => by
    rw [UInt32.toNat_ofNat']
    exact Nat.mod_le n _
  -- a number that is cut down to a word is no larger than it was, so that its bound stays
  rcases b.funcType_cases typ with ⟨place, hplace, h⟩ | ⟨-, h⟩
  · rw [h]
    have hlt := (List.getElem?_eq_some_iff.mp hplace).1
    exact ⟨List.prefix_rfl, Nat.lt_of_le_of_lt (hword place) hlt⟩
  · rw [h]
    refine ⟨List.prefix_append _ _, Nat.lt_of_le_of_lt (hword _) ?_⟩
    rw [List.length_append]
    exact Nat.lt_succ_self _

/-- Types are never taken back. -/
theorem types_attempt (b : Builder) (step : Declaration) :
    b.draft.types <+: (b.attempt step).2.draft.types := by
  cases step with
  | funcType typ => exact (b.funcType_types typ).1
  | importFunc source field typ =>
    exact (b.attempt_import_keeps ⟨source, field, .func typ⟩).1.symm ▸ List.prefix_rfl
  | importMemory source field limits =>
    exact (b.attempt_import_keeps ⟨source, field, .mem limits⟩).1.symm ▸ List.prefix_rfl
  | _ => exact List.prefix_rfl

/-- Types are never taken back along a whole history, which is one step after the other. -/
theorem types_after (b : Builder) (steps : List Declaration) :
    b.draft.types <+: (after b steps).draft.types := by
  induction steps generalizing b with
  | nil => exact List.prefix_rfl
  | cons step steps ih => exact (b.types_attempt step).trans (ih _)

/-- A call of a history has registered a function type, and the index that it was given. -/
def Registers (history : List Call) (i : Nat) (typ : TypeIdx) : Prop :=
  ∃ call, history[i]? = some call ∧ (∃ t, call.step = .funcType t) ∧ call.answer = .ok (some typ)

/-- The index of a function type stays below the number of types. -/
theorem Registers.lt {steps : List Declaration} {i : Nat} {typ : TypeIdx}
    (h : Registers (calls {} steps) i typ) :
    typ.toNat < (after {} steps).draft.types.length := by
  obtain ⟨call, hcall, ⟨t, ht⟩, hanswer⟩ := h
  rw [getElem?_calls, Option.map_eq_some_iff] at hcall
  obtain ⟨step, hstep, rfl⟩ := hcall
  subst ht
  obtain rfl : _ = typ := Option.some.inj (Except.ok.inj hanswer)
  calc _
    _ < (after {} (steps.take (i + 1))).draft.types.length := by
        rw [after_take_succ {} hstep]
        exact (funcType_types _ t).2
    _ ≤ (after {} steps).draft.types.length := by
        -- the steps behind the call only add types
        rw [← List.take_append_drop (i + 1) steps, after_append, List.take_append_drop]
        exact (types_after _ _).length_le

/-! ## Discipline -/

/-- What a client keeps to: it passes on only indices that it was given before, gives every export
    a name of its own, and ends up with at most one memory, of limits in range. -/
structure Disciplined (steps : List Declaration) : Prop where
  types : ∀ (i : Nat) (step : Declaration) (typ : TypeIdx), steps[i]? = some step →
    step.type? = some typ → ∃ j < i, Registers (calls {} steps) j typ
  exports : ∀ (i : Nat) (step : Declaration) (e : Export), steps[i]? = some step →
    step.export? = some e → ∃ j < i, ∃ entry, Declares (calls {} steps) e.kind j entry e.idx
  names : ((steps.filterMap Declaration.export?).map Export.name).Nodup
  oneMemory : ((calls {} steps).filterMap (Call.entry? .mem)).length ≤ 1
  limits : ∀ entry ∈ (calls {} steps).filterMap (Call.entry? .mem), ∀ limits,
    entry.limits? = some limits → limits.InRange

section Kept

variable {steps : List Declaration}

/-- Finishing keeps the exports as they were called for. -/
theorem exports_finish (steps : List Declaration) :
    (after {} steps).finish.exports = steps.filterMap Declaration.export? := by
  rw [finish, exports_after]
  rfl

/-- An entry of an index space comes from a step that asked for its type. -/
theorem exists_step_of_type {entry : Entry} {typ : TypeIdx}
    (hentry : entry ∈ (after {} steps).finish.space .func) (htyp : entry.type? = some typ) :
    ∃ (i : Nat) (step : Declaration), steps[i]? = some step ∧ step.type? = some typ := by
  rw [space_finish] at hentry
  obtain ⟨call, hcall, hadd⟩ := List.mem_filterMap.mp hentry
  obtain ⟨i, hi⟩ := List.mem_iff_getElem?.mp hcall
  rw [getElem?_calls, Option.map_eq_some_iff] at hi
  obtain ⟨step, hstep, rfl⟩ := hi
  exact ⟨i, step, hstep, Declaration.type?_of_entry? (Call.entry?_eq_some_iff.mp hadd).1 htyp⟩

/-- An export comes from a step that called for it. -/
theorem exists_step_of_export {e : Export} (he : e ∈ (after {} steps).finish.exports) :
    ∃ (i : Nat) (step : Declaration), steps[i]? = some step ∧ step.export? = some e := by
  rw [exports_finish] at he
  obtain ⟨step, hstep, hexport⟩ := List.mem_filterMap.mp he
  obtain ⟨i, hi⟩ := List.mem_iff_getElem?.mp hstep
  exact ⟨i, step, hi, hexport⟩

variable (hfew : ∀ kind : ExternKind,
  steps.countP (fun step => (step.entry? kind).isSome) < 2 ^ 32)

include hfew

/-- A disciplined client ends up with a valid module. -/
theorem Disciplined.valid (h : Disciplined steps) : (after {} steps).finish.Valid := by
  refine Module.valid_of_spaces ?types ?limits ?exports ?names ?oneMemory
  case types =>
    intro entry hentry typ htyp
    -- the step of an entry was given the index by an earlier call, which registered a type
    obtain ⟨i, step, hstep, hgiven⟩ := exists_step_of_type hentry htyp
    obtain ⟨j, -, hregisters⟩ := h.types i step typ hstep hgiven
    exact hregisters.lt
  case limits =>
    intro entry hentry limits hlimits
    rw [space_finish] at hentry
    exact h.limits entry hentry limits hlimits
  case exports =>
    intro e he
    obtain ⟨i, step, hstep, hexport⟩ := exists_step_of_export he
    obtain ⟨j, -, entry, hdeclares⟩ := h.exports i step e hstep hexport
    exact (List.getElem?_eq_some_iff.mp (hdeclares.getElem?_space (hfew e.kind))).1
  case names =>
    rw [exports_finish]
    exact h.names
  case oneMemory =>
    rw [space_finish]
    exact h.oneMemory

end Kept

/-- **A client who only passes on what it was given never fails to build.**  The build writes the
    finished module; its exports are those that were called for, in order; and each of them refers
    to the one declaration whose handle was passed. -/
theorem build_of_disciplined (steps : List Declaration) (h : Disciplined steps)
    (hfew : ∀ kind : ExternKind, steps.countP (fun step => (step.entry? kind).isSome) < 2 ^ 32) :
    let history := calls {} steps
    let m := (after {} steps).finish
    (after {} steps).build = .ok m.write ∧
    m.exports = steps.filterMap Declaration.export? ∧
    ∀ (i : Nat) (step : Declaration) (e : Export), steps[i]? = some step → step.export? = some e →
      e ∈ m.exports ∧ ∃ j < i, ∃ entry, Declares history e.kind j entry e.idx ∧
        (m.space e.kind)[e.idx.toNat]? = some entry ∧
        ∀ j' entry', Declares history e.kind j' entry' e.idx → j' = j := by
  refine ⟨(h.valid hfew).encode, exports_finish steps, fun i step e hstep hexport => ?_⟩
  obtain ⟨j, hj, entry, hdeclares⟩ := h.exports i step e hstep hexport
  refine ⟨?_, j, hj, entry, hdeclares, hdeclares.getElem?_space (hfew e.kind),
    fun j' entry' hother => hother.unique (hfew e.kind) hdeclares⟩
  rw [exports_finish]
  exact List.mem_filterMap.mpr ⟨step, List.mem_of_getElem? hstep, hexport⟩

/-- Two imports come too late, one of them with limits that no memory may have. -/
def orderly : List Declaration :=
  [.funcType {}, .importFunc "env" "a" 0, .func ⟨0, [], []⟩, .importFunc "env" "late" 0,
    .memory ⟨1, some 2⟩, .importMemory "env" "late" ⟨70000, none⟩, .exportMemory "m" 0,
    .func ⟨0, [], []⟩, .exportFunc "f" 2, .exportFunc "a" 0]

/-- The history keeps to all that a client has to keep to.  The late imports do no harm: nothing is
    passed on from calls that failed, and an import that is refused adds no entry. -/
theorem disciplined_orderly : Disciplined orderly where
  types := by
    intro i step typ hstep htyp
    have hregisters : Registers (calls {} orderly) 0 0 := ⟨_, rfl, ⟨_, rfl⟩, rfl⟩
    match i, hstep with
    | 1, rfl => cases htyp; exact ⟨0, by decide, hregisters⟩
    | 2, rfl => cases htyp; exact ⟨0, by decide, hregisters⟩
    | 3, rfl => cases htyp; exact ⟨0, by decide, hregisters⟩
    | 7, rfl => cases htyp; exact ⟨0, by decide, hregisters⟩
    | 9, rfl => nomatch htyp
  exports := by
    intro i step e hstep hexport
    match i, hstep with
    | 6, rfl => cases hexport; exact ⟨4, by decide, _, _, rfl, rfl, rfl⟩
    | 8, rfl => cases hexport; exact ⟨7, by decide, _, _, rfl, rfl, rfl⟩
    | 9, rfl => cases hexport; exact ⟨1, by decide, _, _, rfl, rfl, rfl⟩
  names := by decide
  oneMemory := by decide
  limits := by
    intro entry hentry limits hlimits
    obtain rfl : entry = .mem ⟨1, some 2⟩ := List.mem_singleton.mp hentry
    obtain rfl : _ = limits := Option.some.inj hlimits
    refine ⟨by decide, fun max hmax => ?_⟩
    obtain rfl : _ = max := Option.some.inj hmax
    decide

/-- Every function and memory of the history is built, and the export of `f` refers to the second
    function that was declared, which is the third one of all. -/
theorem build_of_disciplined_orderly :
    Disciplined orderly ∧
    (∀ kind : ExternKind, orderly.countP (fun step => (step.entry? kind).isSome) < 2 ^ 32) ∧
    (calls {} orderly).map Call.answer =
      [.ok (some 0), .ok (some 0), .ok (some 1), .error .lateFuncImport, .ok (some 0),
        .error .lateMemImport, .ok none, .ok (some 2), .ok none, .ok none] ∧
    (after {} orderly).build = .ok (after {} orderly).finish.write ∧
    ∃ j < 8, ∃ entry, Declares (calls {} orderly) .func j entry 2 ∧
      ((after {} orderly).finish.space .func)[2]? = some entry := by
  have hfew : ∀ kind : ExternKind,
      orderly.countP (fun step => (step.entry? kind).isSome) < 2 ^ 32 := by
    intro kind
    cases kind <;> decide
  obtain ⟨hbuild, -, hexports⟩ := build_of_disciplined orderly disciplined_orderly hfew
  obtain ⟨-, j, hj, entry, hdeclares, hentry, -⟩ := hexports 8 _ _ rfl rfl
  exact ⟨disciplined_orderly, hfew, rfl, hbuild, j, hj, entry, hdeclares, hentry⟩

end Builder

end WasmBinary
