/-
  Building a module one declaration at a time.

  1. Every declaration of a function type, a function or a memory hands out its index at once, and
     later declarations refer to it by that index.  An index stays right because imported
     functions and memories come first in their index spaces: they have to be declared before the
     first one of their kind that the module defines.  The two kinds do not block each other.

  2. A function type that was declared before is not declared again; its index is handed out once
     more.

  3. A declaration that fails leaves the builder as it was.

  Indices are 32-bit words.
-/
import WasmBinary.Module.Validate

namespace WasmBinary

/-- A step in the making of a module. -/
inductive Declaration
  | funcType (typ : FuncType)
  | importFunc (source field : String) (typ : TypeIdx)
  | importMemory (source field : String) (limits : Limits)
  | func (func : Func)
  | memory (limits : Limits)
  | exportFunc (name : String) (idx : FuncIdx)
  | exportMemory (name : String) (idx : MemIdx)
deriving DecidableEq, Repr

/-- A module in the making. -/
structure Builder where
  draft : Module := {}
deriving DecidableEq, Repr

namespace Builder

/-- The index of a function type, which is added if it is new. -/
def funcType (b : Builder) (typ : FuncType) : TypeIdx × Builder :=
  match b.draft.types.findIdx? (· == typ) with
  | some i => (UInt32.ofNat i, b)
  | none =>
      (UInt32.ofNat b.draft.types.length, ⟨{ b.draft with types := b.draft.types ++ [typ] }⟩)

/-- Adds one import behind the others. -/
def addImport (b : Builder) (i : Import) : Builder :=
  ⟨{ b.draft with imports := b.draft.imports ++ [i] }⟩

/-- Imports a function. -/
def importFunc (b : Builder) (source field : String) (typ : TypeIdx) :
    Except Error (FuncIdx × Builder) :=
  if b.draft.funcs = [] then
    .ok (UInt32.ofNat b.draft.importedFuncs.length, b.addImport ⟨source, field, .func typ⟩)
  else .error .lateFuncImport

/-- Imports a memory. -/
def importMemory (b : Builder) (source field : String) (limits : Limits) :
    Except Error (MemIdx × Builder) :=
  if b.draft.mems = [] then
    .ok (UInt32.ofNat b.draft.importedMems.length, b.addImport ⟨source, field, .mem limits⟩)
  else .error .lateMemImport

/-- Defines a function. -/
def func (b : Builder) (f : Func) : FuncIdx × Builder :=
  (UInt32.ofNat b.draft.funcCount, ⟨{ b.draft with funcs := b.draft.funcs ++ [f] }⟩)

/-- Defines a memory. -/
def memory (b : Builder) (limits : Limits) : MemIdx × Builder :=
  (UInt32.ofNat b.draft.memCount, ⟨{ b.draft with mems := b.draft.mems ++ [limits] }⟩)

/-- Adds one export behind the others. -/
def addExport (b : Builder) (e : Export) : Builder :=
  ⟨{ b.draft with exports := b.draft.exports ++ [e] }⟩

/-- Takes one step: the index it hands out, if it does, and the builder after it. -/
def declare (b : Builder) : Declaration → Except Error (Option UInt32 × Builder)
  | .funcType typ => let (idx, b) := b.funcType typ; .ok (some idx, b)
  | .importFunc source field typ =>
      (b.importFunc source field typ).map fun (idx, b) => (some idx, b)
  | .importMemory source field limits =>
      (b.importMemory source field limits).map fun (idx, b) => (some idx, b)
  | .func f => let (idx, b) := b.func f; .ok (some idx, b)
  | .memory limits => let (idx, b) := b.memory limits; .ok (some idx, b)
  | .exportFunc name idx => .ok (none, b.addExport ⟨name, .func idx⟩)
  | .exportMemory name idx => .ok (none, b.addExport ⟨name, .mem idx⟩)

/-- What a step answers: the index that it hands out, if it does, or why it failed. -/
abbrev Answer := Except Error (Option UInt32)

/-- Takes one step, and goes on from where it was if the step fails. -/
def attempt (b : Builder) (step : Declaration) : Answer × Builder :=
  match b.declare step with
  | .ok (idx, b') => (.ok idx, b')
  | .error e => (.error e, b)

/-- Takes steps until one fails. -/
def declareAll (b : Builder) (steps : List Declaration) : Except Error Builder :=
  steps.foldlM (fun b step => (b.declare step).map (·.2)) b

/-- The module as declared so far. -/
def finish (b : Builder) : Module := b.draft

/-- Finishes and writes the module, if it keeps the rules. -/
def build (b : Builder) : Except Error Encoded := b.finish.encode

end Builder

end WasmBinary
