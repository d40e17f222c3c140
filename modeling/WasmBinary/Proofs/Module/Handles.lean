/-
  Indices that a builder hands out stay right.

  A client declares step by step, and may go on after a step that failed.  `calls` is the history
  of what it did and what it was answered; `after` is the builder that it then has.

  1. **One step** — a step that succeeds adds at most one entry to one of the two index spaces, at
     its END, and hands out the size that the space had before (`space_attempt`,
     `answer_attempt`).  For an import this rests on the guard: imported entries come before
     defined ones, so an import is at the end only as long as nothing of its kind is defined
     (`space_addImport`).

  2. **A history** — an index space holds the entries of the calls that succeeded, in the order of
     the calls (`space_after`).  So a call that adds an entry is given the number of entries that
     earlier calls have added (`answer_eq_place`), and finds its entry there in the end, whatever
     came later.

  3. **Failures** — only imports fail, and exactly behind a definition of their own kind
     (`answer_eq_error_iff`).  A failing call leaves the builder as it was, and a client who leaves
     out the steps that fail sees no difference (`calls_succeeded`).
-/
import Mathlib.Algebra.Group.Nat.Defs
import WasmBinary.Module.Builder

namespace WasmBinary

/-! ## Index spaces -/

/-- What stands at a position of an index space. -/
inductive Entry
  | imported (i : Import)
  | func (f : Func)
  | mem (limits : Limits)
deriving DecidableEq, Repr

namespace Import

/-- An import has a function type just if it is that of a function. -/
theorem isSome_func? (i : Import) : i.func?.isSome = decide (i.kind = .func) := by
  cases hdesc : i.desc <;> simp [kind, func?, hdesc]

/-- And it has limits just if it is that of a memory. -/
theorem isSome_mem? (i : Import) : i.mem?.isSome = decide (i.kind = .mem) := by
  cases hdesc : i.desc <;> simp [kind, mem?, hdesc]

/-- The step that declares an import. -/
def step (i : Import) : Declaration :=
  match i.desc with
  | .func typ => .importFunc i.source i.field typ
  | .mem limits => .importMemory i.source i.field limits

end Import

namespace Module

/-- The imported entries of an index space, in the order of the imports. -/
def imported (m : Module) (kind : ExternKind) : List Entry :=
  (m.imports.filter fun i => i.kind = kind).map .imported

/-- The entries of an index space that the module defines. -/
def defined (m : Module) : ExternKind → List Entry
  | .func => m.funcs.map .func
  | .mem => m.mems.map .mem

/-- An index space: imported entries, then defined ones. -/
def space (m : Module) (kind : ExternKind) : List Entry :=
  m.imported kind ++ m.defined kind

/-- Imports of a kind can be counted by any part that only they have. -/
theorem length_imported {α : Type} (m : Module) {kind : ExternKind} {part : Import → Option α}
    (hpart : ∀ i, (part i).isSome = decide (i.kind = kind)) :
    (m.imported kind).length = (m.imports.filterMap part).length := by
  rw [imported, List.length_map, ← List.countP_eq_length_filter, List.length_filterMap_eq_countP]
  exact List.countP_congr fun i _ => by rw [hpart]

/-- The space of functions is as large as all functions together, imported and defined. -/
theorem length_space_func (m : Module) : (m.space .func).length = m.funcCount := by
  rw [space, List.length_append, length_imported m Import.isSome_func?, defined, List.length_map,
    funcCount, importedFuncs]

/-- And so is the space of memories. -/
theorem length_space_mem (m : Module) : (m.space .mem).length = m.memCount := by
  rw [space, List.length_append, length_imported m Import.isSome_mem?, defined, List.length_map,
    memCount, importedMems]

end Module

/-- The entry that a step declares in the index space of a kind, if it does. -/
def Declaration.entry? : ExternKind → Declaration → Option Entry
  | .func, .importFunc source field typ => some (.imported ⟨source, field, .func typ⟩)
  | .func, .func f => some (.func f)
  | .mem, .importMemory source field limits => some (.imported ⟨source, field, .mem limits⟩)
  | .mem, .memory limits => some (.mem limits)
  | _, _ => none

/-- The step of an import declares an entry of the import's own kind, and nothing in the other
    space. -/
theorem Declaration.entry?_import (i : Import) (kind : ExternKind) :
    i.step.entry? kind = if i.kind = kind then some (.imported i) else none := by
  obtain ⟨source, field, desc⟩ := i
  cases desc <;> cases kind <;> rfl

/-- The entry that a step adds to what the module defines of a kind, if it does. -/
def Declaration.definition? : ExternKind → Declaration → Option Entry
  | .func, .func f => some (.func f)
  | .mem, .memory limits => some (.mem limits)
  | _, _ => none

namespace Builder

/-! ## Histories -/

/-- A step that was taken, and what it was answered. -/
structure Call where
  step : Declaration
  answer : Answer

/-- The entry that a call has added to the index space of a kind. -/
def Call.entry? (kind : ExternKind) (call : Call) : Option Entry :=
  match call.answer with
  | .ok _ => call.step.entry? kind
  | .error _ => none

/-- The calls of a client who takes all steps, in order. -/
def calls (b : Builder) : List Declaration → List Call
  | [] => []
  | step :: steps => ⟨step, (b.attempt step).1⟩ :: calls (b.attempt step).2 steps

/-- The builder after all steps. -/
def after (b : Builder) : List Declaration → Builder
  | [] => b
  | step :: steps => after (b.attempt step).2 steps

/-! ## One step -/

/-- Why an import fails. -/
def lateImport : ExternKind → Error
  | .func => .lateFuncImport
  | .mem => .lateMemImport

/-- Both imports are one step: it succeeds as long as nothing of its kind is defined, and hands out
    the size of its index space. -/
theorem attempt_import (b : Builder) (i : Import) :
    b.attempt i.step =
      if b.draft.defined i.kind = [] then
        (.ok (some (UInt32.ofNat (b.draft.space i.kind).length)), b.addImport i)
      else (.error (lateImport i.kind), b) := by
  obtain ⟨source, field, desc⟩ := i
  cases desc with
  | func typ =>
    by_cases h : b.draft.funcs = [] <;>
      simp [attempt, declare, importFunc, Import.step, Import.kind, Module.length_space_func,
        Module.defined, Module.funcCount, lateImport, h, Except.map]
  | mem limits =>
    by_cases h : b.draft.mems = [] <;>
      simp [attempt, declare, importMemory, Import.step, Import.kind, Module.length_space_mem,
        Module.defined, Module.memCount, lateImport, h, Except.map]

/-- A function type succeeds and changes nothing but the types. -/
theorem attempt_funcType (b : Builder) (typ : FuncType) :
    ∃ idx types, b.attempt (.funcType typ) = (.ok (some idx), ⟨{ b.draft with types }⟩) := by
  simp only [attempt, declare, funcType]
  cases b.draft.types.findIdx? (· == typ) with
  | some i => exact ⟨UInt32.ofNat i, b.draft.types, rfl⟩
  | none => exact ⟨_, _, rfl⟩

/-- An import behind a space that defines nothing goes to the end of it, and it does not move an
    entry of the other space. -/
theorem space_addImport (b : Builder) (i : Import) (hnone : b.draft.defined i.kind = [])
    (kind : ExternKind) :
    (b.addImport i).draft.space kind
      = b.draft.space kind ++ if i.kind = kind then [.imported i] else [] := by
  have hdefined : (b.addImport i).draft.defined kind = b.draft.defined kind := by
    cases kind <;> rfl
  have himported : (b.addImport i).draft.imported kind
      = b.draft.imported kind ++ if i.kind = kind then [.imported i] else [] := by
    rw [Module.imported, addImport, List.filter_append, List.map_append]
    by_cases h : i.kind = kind <;> simp [h, Module.imported]
  rw [Module.space, Module.space, himported, hdefined]
  by_cases h : i.kind = kind
  · -- nothing is defined, so that the end of the imports is the end of the space
    rw [← h, hnone, List.append_nil, List.append_nil]
  · rw [if_neg h, List.append_nil, List.append_nil]

/-- An import that succeeds puts its entry at the end of its space: nothing of its kind is defined
    then, so that it stands behind the imports and in front of nothing. -/
theorem space_attempt_import (b : Builder) (i : Import) (kind : ExternKind) :
    (b.attempt i.step).2.draft.space kind
      = b.draft.space kind ++ (Call.entry? kind ⟨i.step, (b.attempt i.step).1⟩).toList := by
  rw [attempt_import]
  by_cases h : b.draft.defined i.kind = []
  · rw [if_pos h, space_addImport b i h kind, Call.entry?, Declaration.entry?_import]
    split <;> rfl
  · rw [if_neg h]
    exact (List.append_nil _).symm

/-- A step that succeeds puts its entry at the end of its index space; a step that fails puts none
    there. -/
theorem space_attempt (b : Builder) (step : Declaration) (kind : ExternKind) :
    (b.attempt step).2.draft.space kind
      = b.draft.space kind ++ (Call.entry? kind ⟨step, (b.attempt step).1⟩).toList := by
  cases step with
  | funcType typ =>
    obtain ⟨idx, types, h⟩ := b.attempt_funcType typ
    rw [h]
    cases kind <;> exact (List.append_nil _).symm
  | importFunc source field typ => exact b.space_attempt_import ⟨source, field, .func typ⟩ kind
  | importMemory source field limits =>
    exact b.space_attempt_import ⟨source, field, .mem limits⟩ kind
  | func f =>
    cases kind with
    | func =>
      show b.draft.imported .func ++ (b.draft.funcs ++ [f]).map .func = _
      rw [List.map_append, ← List.append_assoc]
      rfl
    | mem => exact (List.append_nil _).symm
  | memory limits =>
    cases kind with
    | func => exact (List.append_nil _).symm
    | mem =>
      show b.draft.imported .mem ++ (b.draft.mems ++ [limits]).map .mem = _
      rw [List.map_append, ← List.append_assoc]
      rfl
  | exportFunc name idx => cases kind <;> exact (List.append_nil _).symm
  | exportMemory name idx => cases kind <;> exact (List.append_nil _).symm

/-- An import defines nothing, whether it succeeds or not. -/
theorem defined_attempt_import (b : Builder) (i : Import) (kind : ExternKind) :
    (b.attempt i.step).2.draft.defined kind
      = b.draft.defined kind ++ (i.step.definition? kind).toList := by
  have hnone : i.step.definition? kind = none := by
    obtain ⟨source, field, desc⟩ := i
    cases desc <;> cases kind <;> rfl
  rw [attempt_import, hnone, Option.toList_none, List.append_nil]
  split
  · cases kind <;> rfl
  · rfl

/-- Definitions always succeed, and nothing else changes what the module defines. -/
theorem defined_attempt (b : Builder) (step : Declaration) (kind : ExternKind) :
    (b.attempt step).2.draft.defined kind
      = b.draft.defined kind ++ (step.definition? kind).toList := by
  cases step with
  | funcType typ =>
    obtain ⟨idx, types, h⟩ := b.attempt_funcType typ
    rw [h]
    cases kind <;> exact (List.append_nil _).symm
  | importFunc source field typ => exact b.defined_attempt_import ⟨source, field, .func typ⟩ kind
  | importMemory source field limits =>
    exact b.defined_attempt_import ⟨source, field, .mem limits⟩ kind
  | func f =>
    cases kind with
    | func => exact List.map_append
    | mem => exact (List.append_nil _).symm
  | memory limits =>
    cases kind with
    | func => exact (List.append_nil _).symm
    | mem => exact List.map_append
  | exportFunc name idx => cases kind <;> exact (List.append_nil _).symm
  | exportMemory name idx => cases kind <;> exact (List.append_nil _).symm

/-- An import that succeeds hands out the size that its index space had before. -/
theorem answer_attempt_import {b : Builder} {i : Import} {kind : ExternKind} {e : Entry}
    {answer : Option UInt32} (hentry : i.step.entry? kind = some e)
    (h : (b.attempt i.step).1 = .ok answer) :
    answer = some (UInt32.ofNat (b.draft.space kind).length) := by
  rw [Declaration.entry?_import] at hentry
  obtain ⟨rfl, -⟩ := Option.ite_none_right_eq_some.mp hentry
  rw [attempt_import] at h
  split at h
  · exact (Except.ok.inj h).symm
  · nomatch h

/-- A step that succeeds with an entry hands out the size that the index space had before.  This is
    the index of the entry, since the entry goes to the end. -/
theorem answer_attempt {b : Builder} {step : Declaration} {kind : ExternKind} {e : Entry}
    {answer : Option UInt32} (hentry : step.entry? kind = some e)
    (h : (b.attempt step).1 = .ok answer) :
    answer = some (UInt32.ofNat (b.draft.space kind).length) := by
  cases step with
  | importFunc source field typ =>
    exact answer_attempt_import (i := ⟨source, field, .func typ⟩) hentry h
  | importMemory source field limits =>
    exact answer_attempt_import (i := ⟨source, field, .mem limits⟩) hentry h
  | func f =>
    cases kind with
    | func =>
      rw [Module.length_space_func]
      exact (Except.ok.inj h).symm
    | mem => nomatch hentry
  | memory limits =>
    cases kind with
    | func => nomatch hentry
    | mem =>
      rw [Module.length_space_mem]
      exact (Except.ok.inj h).symm
  | _ => cases kind <;> nomatch hentry

/-- Only imports fail, and exactly where something of their kind is defined. -/
theorem attempt_eq_error_iff {b : Builder} {step : Declaration} {e : Error} :
    (b.attempt step).1 = .error e ↔
      ∃ i : Import, step = i.step ∧ b.draft.defined i.kind ≠ [] ∧ e = lateImport i.kind := by
  constructor
  · intro h
    -- steps of other kinds have no way to fail
    suffices himport : ∃ i : Import, step = i.step by
      obtain ⟨i, rfl⟩ := himport
      rw [attempt_import] at h
      by_cases hdefined : b.draft.defined i.kind = []
      · rw [if_pos hdefined] at h
        nomatch h
      · rw [if_neg hdefined] at h
        exact ⟨i, rfl, hdefined, (Except.error.inj h).symm⟩
    cases step with
    | importFunc source field typ => exact ⟨⟨source, field, .func typ⟩, rfl⟩
    | importMemory source field limits => exact ⟨⟨source, field, .mem limits⟩, rfl⟩
    | funcType typ =>
      obtain ⟨idx, types, hok⟩ := b.attempt_funcType typ
      rw [hok] at h
      nomatch h
    | _ => nomatch h
  · rintro ⟨i, rfl, hdefined, rfl⟩
    rw [attempt_import, if_neg hdefined]

/-- A step that fails leaves the builder as it was. -/
theorem attempt_of_error {b : Builder} {step : Declaration} {e : Error}
    (h : (b.attempt step).1 = .error e) : (b.attempt step).2 = b := by
  rw [attempt] at h ⊢
  cases hstep : b.declare step with
  | ok result =>
    rw [hstep] at h
    nomatch h
  | error found => rfl

/-! ## Histories, step by step -/

/-- A history in two parts is the second part behind the first. -/
theorem after_append (b : Builder) (steps more : List Declaration) :
    after b (steps ++ more) = after (after b steps) more := by
  induction steps generalizing b with
  | nil => rfl
  | cons step steps ih => exact ih _

/-- One step more of a history is that step, taken where the others have led. -/
theorem after_take_succ (b : Builder) {steps : List Declaration} {i : Nat} {step : Declaration}
    (h : steps[i]? = some step) :
    after b (steps.take (i + 1)) = ((after b (steps.take i)).attempt step).2 := by
  rw [List.take_add_one, h, after_append]
  rfl

/-- A call is answered by the builder that the steps before it have made. -/
theorem getElem?_calls (b : Builder) (steps : List Declaration) (i : Nat) :
    (calls b steps)[i]?
      = steps[i]?.map fun step => ⟨step, ((after b (steps.take i)).attempt step).1⟩ := by
  induction steps generalizing b i with
  | nil => rfl
  | cons step steps ih =>
    cases i with
    | zero => rfl
    | succ i => exact ih _ i

/-- The first calls of a history are those of its first steps: what a step is answered does not
    depend on the steps behind it. -/
theorem take_calls (b : Builder) (steps : List Declaration) (i : Nat) :
    (calls b steps).take i = calls b (steps.take i) := by
  induction steps generalizing b i with
  | nil => rw [calls, List.take_nil, List.take_nil, calls]
  | cons step steps ih =>
    cases i with
    | zero => rfl
    | succ i => exact congrArg (_ :: ·) (ih _ i)

/-- Every step of a history is called, in order, also behind one that has failed. -/
theorem map_step_calls (b : Builder) (steps : List Declaration) :
    (calls b steps).map Call.step = steps := by
  induction steps generalizing b with
  | nil => rfl
  | cons step steps ih => exact congrArg (step :: ·) (ih _)

/-- An index space holds the entries of the calls that succeeded, in order. -/
theorem space_after (b : Builder) (steps : List Declaration) (kind : ExternKind) :
    (after b steps).draft.space kind
      = b.draft.space kind ++ (calls b steps).filterMap (Call.entry? kind) := by
  induction steps generalizing b with
  | nil => exact (List.append_nil _).symm
  | cons step steps ih =>
    rw [after, ih, space_attempt, List.append_assoc, calls, List.filterMap_cons]
    cases Call.entry? kind ⟨step, (b.attempt step).1⟩ <;> rfl

/-- What a module defines are the definitions of its history, in order. -/
theorem defined_after (b : Builder) (steps : List Declaration) (kind : ExternKind) :
    (after b steps).draft.defined kind
      = b.draft.defined kind ++ steps.filterMap (Declaration.definition? kind) := by
  induction steps generalizing b with
  | nil => exact (List.append_nil _).symm
  | cons step steps ih =>
    rw [after, ih, defined_attempt, List.append_assoc, List.filterMap_cons]
    cases step.definition? kind <;> rfl

/-- Something of a kind is defined as soon as a step has defined it. -/
theorem defined_after_ne_nil_iff {steps : List Declaration} {kind : ExternKind} :
    (after {} steps).draft.defined kind ≠ [] ↔
      ∃ step ∈ steps, ∃ e, step.definition? kind = some e := by
  have hdefined : (after {} steps).draft.defined kind
      = steps.filterMap (Declaration.definition? kind) := by
    rw [defined_after]
    cases kind <;> rfl
  rw [hdefined]
  constructor
  · intro h
    obtain ⟨e, he⟩ := List.exists_mem_of_ne_nil _ h
    obtain ⟨step, hmem, hstep⟩ := List.mem_filterMap.mp he
    exact ⟨step, hmem, e, hstep⟩
  · rintro ⟨step, hmem, e, hstep⟩
    exact List.ne_nil_of_mem (List.mem_filterMap.mpr ⟨step, hmem, hstep⟩)

/-! ## Positions -/

section Kept

variable {α β : Type} {f : α → Option β} {l : List α} {i j : Nat} {x : α} {y : β}

/-- What a list keeps, split at an element that it keeps. -/
theorem filterMap_split (hx : l[i]? = some x) (hy : f x = some y) :
    l.filterMap f = (l.take i).filterMap f ++ y :: (l.drop (i + 1)).filterMap f := by
  obtain ⟨hi, rfl⟩ := List.getElem?_eq_some_iff.mp hx
  calc l.filterMap f = (l.take i ++ l[i] :: l.drop (i + 1)).filterMap f := by
        rw [← List.drop_eq_getElem_cons hi, List.take_append_drop]
    _ = _ := by rw [List.filterMap_append, List.filterMap_cons_some hy]

/-- Behind an element that is kept, more is kept than before it. -/
theorem length_filterMap_take_lt (hx : l[i]? = some x) (hy : f x = some y) (hij : i < j) :
    ((l.take i).filterMap f).length < ((l.take j).filterMap f).length := by
  have hx' : (l.take j)[i]? = some x := by rw [List.getElem?_take_of_lt hij, hx]
  rw [filterMap_split hx' hy, List.take_take, Nat.min_eq_left (Nat.le_of_lt hij),
    List.length_append, List.length_cons]
  omega

/-- What is kept at a position comes from an element behind so many that are kept. -/
theorem exists_of_getElem?_filterMap {p : Nat} (h : (l.filterMap f)[p]? = some y) :
    ∃ i x, l[i]? = some x ∧ f x = some y ∧ ((l.take i).filterMap f).length = p := by
  obtain ⟨hp, rfl⟩ := List.getElem?_eq_some_iff.mp h
  have hsplit : l.filterMap f
      = (l.filterMap f).take p ++ (l.filterMap f)[p] :: (l.filterMap f).drop (p + 1) := by
    rw [← List.drop_eq_getElem_cons hp, List.take_append_drop]
  obtain ⟨before, rest, rfl, hbefore, hrest⟩ := List.filterMap_eq_append_iff.mp hsplit
  obtain ⟨dropped, x, after, rfl, hdropped, hx, -⟩ := List.filterMap_eq_cons_iff.mp hrest
  refine ⟨(before ++ dropped).length, x, ?_, hx, ?_⟩
  · rw [← List.append_assoc, List.getElem?_append_right (Nat.le_refl _), Nat.sub_self]
    rfl
  · rw [← List.append_assoc, List.take_left', List.filterMap_append, hbefore,
      List.filterMap_eq_nil_iff.mpr hdropped, List.append_nil, List.length_take]
    · exact Nat.min_eq_left (Nat.le_of_lt hp)
    · rfl

end Kept

/-! ## Handles -/

/-- The number of entries that the first calls of a history have added to the index space of a
    kind. -/
def place (history : List Call) (kind : ExternKind) (i : Nat) : Nat :=
  ((history.take i).filterMap (Call.entry? kind)).length

/-- A call of a history has declared an entry of a kind, and the index that it was given. -/
def Declares (history : List Call) (kind : ExternKind) (i : Nat) (e : Entry) (idx : UInt32) :
    Prop :=
  ∃ call, history[i]? = some call ∧ call.step.entry? kind = some e ∧ call.answer = .ok (some idx)

/-- A call has added an entry just if its step declares it and it was answered. -/
theorem Call.entry?_eq_some_iff {kind : ExternKind} {call : Call} {e : Entry} :
    call.entry? kind = some e ↔
      call.step.entry? kind = some e ∧ ∃ answer, call.answer = .ok answer := by
  rw [Call.entry?]
  cases call.answer <;> simp

/-- The finished module has the index spaces of its history. -/
theorem space_finish (steps : List Declaration) (kind : ExternKind) :
    (after {} steps).finish.space kind = (calls {} steps).filterMap (Call.entry? kind) := by
  rw [finish, space_after]
  cases kind <;> rfl

/-- A call that adds an entry is given the number of entries before it. -/
theorem answer_eq_place {steps : List Declaration} {kind : ExternKind} {i : Nat} {call : Call}
    {e : Entry} {answer : Option UInt32} (hcall : (calls {} steps)[i]? = some call)
    (hentry : call.step.entry? kind = some e) (hanswer : call.answer = .ok answer) :
    answer = some (UInt32.ofNat (place (calls {} steps) kind i)) := by
  rw [getElem?_calls, Option.map_eq_some_iff] at hcall
  obtain ⟨step, -, rfl⟩ := hcall
  rw [answer_attempt hentry hanswer, place, take_calls]
  exact congrArg (fun entries => some (UInt32.ofNat entries.length))
    (space_finish (steps.take i) kind)

section Few

variable {steps : List Declaration} {kind : ExternKind}
  (hfew : steps.countP (fun step => (step.entry? kind).isSome) < 2 ^ 32)

include hfew

/-- Indices do not wrap around as long as there are fewer declarations than words. -/
theorem place_lt {i : Nat} {call : Call} {e : Entry} (hcall : (calls {} steps)[i]? = some call)
    (hentry : call.entry? kind = some e) : place (calls {} steps) kind i < 2 ^ 32 := by
  have hplace : place (calls {} steps) kind i
      < ((calls {} steps).filterMap (Call.entry? kind)).length := by
    rw [place, filterMap_split hcall hentry, List.length_append, List.length_cons]
    omega
  -- no more entries are added than steps ask for
  have hsteps : ((calls {} steps).filterMap (Call.entry? kind)).length
      ≤ steps.countP fun step => (step.entry? kind).isSome := by
    rw [List.length_filterMap_eq_countP]
    calc (calls {} steps).countP (fun call => (call.entry? kind).isSome)
      _ ≤ (calls {} steps).countP (fun call => (call.step.entry? kind).isSome) := by
          refine List.countP_mono_left fun call _ h => ?_
          obtain ⟨e, he⟩ := Option.isSome_iff_exists.mp h
          rw [(Call.entry?_eq_some_iff.mp he).1]
          rfl
      _ = ((calls {} steps).map Call.step).countP (fun step => (step.entry? kind).isSome) := by
          rw [List.countP_map]
          rfl
      _ = steps.countP (fun step => (step.entry? kind).isSome) := by rw [map_step_calls]
  omega

/-- The index of a call that declares an entry, as a number. -/
theorem Declares.toNat_idx {i : Nat} {e : Entry} {idx : UInt32}
    (h : Declares (calls {} steps) kind i e idx) :
    idx.toNat = place (calls {} steps) kind i := by
  obtain ⟨call, hcall, hentry, hanswer⟩ := h
  obtain rfl := Option.some.inj (answer_eq_place hcall hentry hanswer)
  exact UInt32.toNat_ofNat_of_lt' (place_lt hfew hcall
    (Call.entry?_eq_some_iff.mpr ⟨hentry, _, hanswer⟩))

/-- A handle refers to what its call has declared. -/
theorem Declares.getElem?_space {i : Nat} {e : Entry} {idx : UInt32}
    (h : Declares (calls {} steps) kind i e idx) :
    ((after {} steps).finish.space kind)[idx.toNat]? = some e := by
  rw [h.toNat_idx hfew, space_finish, place]
  obtain ⟨call, hcall, hentry, hanswer⟩ := h
  rw [filterMap_split hcall (Call.entry?_eq_some_iff.mpr ⟨hentry, _, hanswer⟩),
    List.getElem?_append_right (Nat.le_refl _), Nat.sub_self]
  rfl

/-- No two calls share a handle. -/
theorem Declares.unique {i j : Nat} {e e' : Entry} {idx : UInt32}
    (hi : Declares (calls {} steps) kind i e idx) (hj : Declares (calls {} steps) kind j e' idx) :
    i = j := by
  have hplace : place (calls {} steps) kind i = place (calls {} steps) kind j :=
    (hi.toNat_idx hfew).symm.trans (hj.toNat_idx hfew)
  obtain ⟨call, hcall, hentry, hanswer⟩ := hi
  obtain ⟨call', hcall', hentry', hanswer'⟩ := hj
  -- the later of two calls finds more entries, and so it is given another index
  obtain hlt | heq | hgt := Nat.lt_trichotomy i j
  · have := length_filterMap_take_lt hcall
      (Call.entry?_eq_some_iff.mpr ⟨hentry, _, hanswer⟩) hlt
    exact absurd hplace (Nat.ne_of_lt this)
  · exact heq
  · have := length_filterMap_take_lt hcall'
      (Call.entry?_eq_some_iff.mpr ⟨hentry', _, hanswer'⟩) hgt
    exact absurd hplace.symm (Nat.ne_of_lt this)

/-- Every entry of an index space has its call. -/
theorem exists_declares {p : Nat} {e : Entry}
    (h : ((after {} steps).finish.space kind)[p]? = some e) :
    ∃ i idx, Declares (calls {} steps) kind i e idx ∧ idx.toNat = p := by
  rw [space_finish] at h
  obtain ⟨i, call, hcall, hentry, rfl⟩ := exists_of_getElem?_filterMap h
  obtain ⟨hstep, answer, hanswer⟩ := Call.entry?_eq_some_iff.mp hentry
  have hdeclares : Declares (calls {} steps) kind i e
      (UInt32.ofNat (place (calls {} steps) kind i)) :=
    ⟨call, hcall, hstep, answer_eq_place hcall hstep hanswer ▸ hanswer⟩
  exact ⟨i, _, hdeclares, hdeclares.toNat_idx hfew⟩

end Few

/-! ## Failures -/

/-- Imports fail exactly behind a definition of their own kind. -/
theorem answer_eq_error_iff {steps : List Declaration} {i : Nat} {call : Call} {e : Error}
    (hcall : (calls {} steps)[i]? = some call) :
    call.answer = .error e ↔
      ((∃ f, .func f ∈ steps.take i) ∧
        (∃ source field typ, call.step = .importFunc source field typ) ∧ e = .lateFuncImport) ∨
      ((∃ limits, .memory limits ∈ steps.take i) ∧
        (∃ source field limits, call.step = .importMemory source field limits) ∧
        e = .lateMemImport) := by
  rw [getElem?_calls, Option.map_eq_some_iff] at hcall
  obtain ⟨step, -, rfl⟩ := hcall
  simp only [attempt_eq_error_iff, defined_after_ne_nil_iff]
  constructor
  · rintro ⟨⟨source, field, desc⟩, rfl, ⟨definition, hmem, entry, hentry⟩, rfl⟩
    cases desc with
    | func typ =>
      cases definition with
      | func f => exact .inl ⟨⟨f, hmem⟩, ⟨source, field, typ, rfl⟩, rfl⟩
      | _ => nomatch hentry
    | mem limits =>
      cases definition with
      | memory found => exact .inr ⟨⟨found, hmem⟩, ⟨source, field, limits, rfl⟩, rfl⟩
      | _ => nomatch hentry
  · rintro (⟨⟨f, hmem⟩, ⟨source, field, typ, rfl⟩, rfl⟩ |
      ⟨⟨found, hmem⟩, ⟨source, field, limits, rfl⟩, rfl⟩)
    · exact ⟨⟨source, field, .func typ⟩, rfl, ⟨.func f, hmem, .func f, rfl⟩, rfl⟩
    · exact ⟨⟨source, field, .mem limits⟩, rfl, ⟨.memory found, hmem, .mem found, rfl⟩, rfl⟩

/-- The calls of a history that succeeded. -/
def succeeded (history : List Call) : List Call :=
  history.filter fun call => call.answer.isOk

/-- A client who leaves out the steps that fail has the same answers to the others, and the same
    builder. -/
theorem calls_succeeded (b : Builder) (steps : List Declaration) :
    calls b ((succeeded (calls b steps)).map Call.step) = succeeded (calls b steps) ∧
      after b ((succeeded (calls b steps)).map Call.step) = after b steps := by
  induction steps generalizing b with
  | nil => exact ⟨rfl, rfl⟩
  | cons step steps ih =>
    obtain ⟨hcalls, hafter⟩ := ih (b.attempt step).2
    rw [calls, after, succeeded]
    cases hanswer : (b.attempt step).1 with
    | ok answer =>
      rw [List.filter_cons_of_pos rfl, List.map_cons, calls, after, hanswer]
      exact ⟨congrArg (_ :: ·) hcalls, hafter⟩
    | error e =>
      rw [List.filter_cons_of_neg Bool.false_ne_true]
      rw [attempt_of_error hanswer] at hcalls hafter ⊢
      exact ⟨hcalls, hafter⟩

/-! ## The whole run -/

/-- A client who declares fewer than 2^32 functions and fewer than 2^32 memories, in any order and
    whatever fails, ends up with a module in which every handle is right: a call that succeeded was
    given the position at which its own declaration stands in the final index space, two calls of
    a kind never share a handle, and each entry of the two spaces belongs to exactly one call.
    A call fails exactly if it imports behind a definition of its own kind.  It leaves the builder
    as it was, so that the module and the other handles are those of a client without it. -/
theorem handles_stay_valid (steps : List Declaration)
    (hfew : ∀ kind : ExternKind, steps.countP (fun step => (step.entry? kind).isSome) < 2 ^ 32) :
    let history := calls {} steps
    let m := (after {} steps).finish
    history.map Call.step = steps ∧
    (∀ (kind : ExternKind) (i : Nat) (call : Call) (e : Entry) (answer : Option UInt32),
      history[i]? = some call → call.step.entry? kind = some e → call.answer = .ok answer →
        ∃ idx, answer = some idx ∧ (m.space kind)[idx.toNat]? = some e) ∧
    (∀ (kind : ExternKind) (i j : Nat) (e e' : Entry) (idx : UInt32),
      Declares history kind i e idx → Declares history kind j e' idx → i = j) ∧
    (∀ (kind : ExternKind) (p : Nat) (e : Entry), (m.space kind)[p]? = some e →
      ∃ i idx, Declares history kind i e idx ∧ idx.toNat = p ∧
        ∀ (j : Nat) (e' : Entry) (idx' : UInt32),
          Declares history kind j e' idx' → idx'.toNat = p → j = i) ∧
    (∀ (i : Nat) (call : Call) (err : Error), history[i]? = some call →
      (call.answer = .error err ↔
        ((∃ f, .func f ∈ steps.take i) ∧
          (∃ source field typ, call.step = .importFunc source field typ) ∧
          err = .lateFuncImport) ∨
        ((∃ limits, .memory limits ∈ steps.take i) ∧
          (∃ source field limits, call.step = .importMemory source field limits) ∧
          err = .lateMemImport)) ∧
      (call.answer = .error err → after {} (steps.take (i + 1)) = after {} (steps.take i))) ∧
    calls {} ((succeeded history).map Call.step) = succeeded history ∧
    (after {} ((succeeded history).map Call.step)).finish = m := by
  obtain ⟨hcalls, hafter⟩ := calls_succeeded {} steps
  refine ⟨map_step_calls {} steps, ?handle, ?distinct, ?owner, ?failure, hcalls,
    congrArg finish hafter⟩
  case handle =>
    intro kind i call e answer hcall hentry hanswer
    have hplace := answer_eq_place hcall hentry hanswer
    have hdeclares : Declares (calls {} steps) kind i e _ :=
      ⟨call, hcall, hentry, hplace ▸ hanswer⟩
    exact ⟨_, hplace, hdeclares.getElem?_space (hfew kind)⟩
  case distinct =>
    intro kind i j e e' idx hi hj
    exact hi.unique (hfew kind) hj
  case owner =>
    intro kind p e hp
    obtain ⟨i, idx, hi, rfl⟩ := exists_declares (hfew kind) hp
    refine ⟨i, idx, hi, rfl, fun j e' idx' hj hsame => ?_⟩
    rw [UInt32.toNat_inj] at hsame
    subst hsame
    exact hj.unique (hfew kind) hi
  case failure =>
    intro i call err hcall
    refine ⟨answer_eq_error_iff hcall, fun herr => ?_⟩
    rw [getElem?_calls, Option.map_eq_some_iff] at hcall
    obtain ⟨step, hstep, rfl⟩ := hcall
    rw [after_take_succ {} hstep, attempt_of_error herr]

/-- Both kinds of entries in one list of imports, and a late import of each kind. -/
def mixed : List Declaration :=
  [.funcType {}, .importFunc "env" "a" 0, .importMemory "env" "m" ⟨1, none⟩,
    .importFunc "env" "b" 0, .func ⟨0, [], []⟩, .importFunc "env" "late" 0,
    .importMemory "env" "n" ⟨2, none⟩, .memory ⟨3, none⟩, .importMemory "env" "late" ⟨4, none⟩,
    .func ⟨0, [], []⟩, .exportFunc "f" 2]

/-- A history in which two imports come too late: the calls that succeed are answered by indices
    that count on, and each of these still leads to what its call has declared. -/
theorem handles_stay_valid_mixed :
    (∀ kind : ExternKind, mixed.countP (fun step => (step.entry? kind).isSome) < 2 ^ 32) ∧
    (calls {} mixed).map Call.answer =
      [.ok (some 0), .ok (some 0), .ok (some 0), .ok (some 1), .ok (some 2),
        .error .lateFuncImport, .ok (some 1), .ok (some 2), .error .lateMemImport, .ok (some 3),
        .ok none] ∧
    ((after {} mixed).finish.space .func)[1]? = some (.imported ⟨"env", "b", .func 0⟩) ∧
    ((after {} mixed).finish.space .mem)[1]? = some (.imported ⟨"env", "n", .mem ⟨2, none⟩⟩) := by
  have hfew : ∀ kind : ExternKind,
      mixed.countP (fun step => (step.entry? kind).isSome) < 2 ^ 32 := by
    intro kind
    cases kind <;> decide
  obtain ⟨-, hhandle, -⟩ := handles_stay_valid mixed hfew
  refine ⟨hfew, rfl, ?_, ?_⟩
  · obtain ⟨idx, hidx, hentry⟩ := hhandle .func 3 _ _ _ rfl rfl rfl
    obtain rfl := Option.some.inj hidx
    exact hentry
  · obtain ⟨idx, hidx, hentry⟩ := hhandle .mem 6 _ _ _ rfl rfl rfl
    obtain rfl := Option.some.inj hidx
    exact hentry

end Builder

end WasmBinary
