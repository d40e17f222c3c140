/-
  The rules a module has to keep before it may be written.

  1. Every type index is below the number of types.
  2. The limits of a memory lie within the pages that a 32-bit address reaches, and the maximum
     is not below the minimum.
  3. Every export refers inside the index space of its kind, and no two exports share a name.
  4. There is at most one memory, imported ones counted.

  Instructions are not checked.  `violation?` gives the FIRST violation: imports in order, then
  functions, memories and exports in order, and the number of memories last.  An export is
  checked for its index before its name.
-/
import Std.Data.HashSet
import WasmBinary.Module.Basic

namespace WasmBinary

/-- A rule that a module breaks. -/
inductive Violation
  | importType
  | minBeyondRange
  | maxBeyondRange
  | maxBelowMin
  | funcType
  | exportFunc
  | exportMem
  | exportName
  | memoryCount
deriving DecidableEq, Repr

/-- How a violation is told. -/
def Violation.message : Violation → String
  | importType => "import: undefined type"
  | minBeyondRange => "limits: min > range"
  | maxBeyondRange => "limits: max > range"
  | maxBelowMin => "limits: max < min"
  | funcType => "func: The type must be defined in the context."
  | exportFunc => "export: undefined func"
  | exportMem => "export: undefined mem"
  | exportName => "module: All export names must be different."
  | memoryCount => "module: The length of mems must not be larger than 1."

/-- The pages that a 32-bit address reaches. -/
def Limits.maxPages : UInt32 := 65536

/-- What is wrong with the limits of a memory. -/
def Limits.violation? (l : Limits) : Option Violation :=
  if Limits.maxPages < l.min then some .minBeyondRange
  else match l.max with
    | none => none
    | some max =>
        if Limits.maxPages < max then some .maxBeyondRange
        else if max < l.min then some .maxBelowMin
        else none

/-- What is wrong with an import, where `types` types are declared. -/
def Import.violation? (types : Nat) (i : Import) : Option Violation :=
  match i.desc with
  | .func typ => if typ.toNat < types then none else some .importType
  | .mem limits => limits.violation?

/-- What is wrong with a function, where `types` types are declared. -/
def Func.violation? (types : Nat) (f : Func) : Option Violation :=
  if f.typ.toNat < types then none else some .funcType

/-- What is wrong with the reference of an export into index spaces of the given sizes. -/
def Export.violation? (funcs mems : Nat) (e : Export) : Option Violation :=
  match e.desc with
  | .func idx => if idx.toNat < funcs then none else some .exportFunc
  | .mem idx => if idx.toNat < mems then none else some .exportMem

namespace Module

/-- What is wrong with a list of exports, after others that took the names `taken`. -/
def exportsViolation? (funcs mems : Nat) (taken : Std.HashSet String) :
    List Export → Option Violation
  | [] => none
  | e :: rest =>
      match e.violation? funcs mems with
      | some v => some v
      | none =>
          if taken.contains e.name then some .exportName
          else exportsViolation? funcs mems (taken.insert e.name) rest

/-- The first rule that a module breaks. -/
def violation? (m : Module) : Option Violation :=
  let types := m.types.length
  let funcs := m.funcCount
  let mems := m.memCount
  (m.imports.findSome? (Import.violation? types)).or <|
  (m.funcs.findSome? (Func.violation? types)).or <|
  (m.mems.findSome? Limits.violation?).or <|
  (exportsViolation? funcs mems ∅ m.exports).or <|
  if 1 < mems then some .memoryCount else none

end Module

end WasmBinary
