/-
  Modules: what a binary says, before it is written.

  A module is five lists of declarations.  Functions and memories can also come from outside, so
  each of these two kinds has an INDEX SPACE: first the imported declarations in their order, then
  the ones that the module defines.  An export refers to a position in such a space.
-/
import WasmBinary.Expr
import WasmBinary.Locals

namespace WasmBinary

/-- The two kinds of declarations that cross the border of a module. -/
inductive ExternKind
  | func
  | mem
deriving DecidableEq, Repr

/-- The byte that stands for a kind. -/
def ExternKind.code : ExternKind → UInt8
  | func => 0x00
  | mem => 0x02

/-- What an import asks for. -/
inductive ImportDesc
  | func (typ : TypeIdx)
  | mem (limits : Limits)
deriving DecidableEq, Repr

/-- A declaration taken from another module, found there by the name `field`. -/
structure Import where
  source : String
  field : String
  desc : ImportDesc
deriving DecidableEq, Repr

namespace Import

/-- The kind of the declaration asked for. -/
def kind (i : Import) : ExternKind :=
  match i.desc with
  | .func _ => .func
  | .mem _ => .mem

/-- The type of an imported function. -/
def func? (i : Import) : Option TypeIdx :=
  match i.desc with
  | .func typ => some typ
  | .mem _ => none

/-- The limits of an imported memory. -/
def mem? (i : Import) : Option Limits :=
  match i.desc with
  | .func _ => none
  | .mem limits => some limits

end Import

/-- A function: its type, its local variables and what it does. -/
structure Func where
  typ : TypeIdx
  locals : List ValType := []
  body : Expr := []
deriving DecidableEq, Repr

/-- What an export offers. -/
inductive ExportDesc
  | func (idx : FuncIdx)
  | mem (idx : MemIdx)
deriving DecidableEq, Repr

/-- A declaration offered to the outside under a name. -/
structure Export where
  name : String
  desc : ExportDesc
deriving DecidableEq, Repr

namespace Export

/-- The kind of the declaration offered. -/
def kind (e : Export) : ExternKind :=
  match e.desc with
  | .func _ => .func
  | .mem _ => .mem

/-- Where the declaration stands in the index space of its kind. -/
def idx (e : Export) : UInt32 :=
  match e.desc with
  | .func idx => idx
  | .mem idx => idx

end Export

/-- The declarations of a module, kind by kind. -/
structure Module where
  types : List FuncType := []
  imports : List Import := []
  funcs : List Func := []
  mems : List Limits := []
  exports : List Export := []
deriving DecidableEq, Repr

namespace Module

/-- The types of the imported functions, in order. -/
def importedFuncs (m : Module) : List TypeIdx :=
  m.imports.filterMap Import.func?

/-- The limits of the imported memories, in order. -/
def importedMems (m : Module) : List Limits :=
  m.imports.filterMap Import.mem?

/-- The size of the function index space. -/
def funcCount (m : Module) : Nat :=
  m.importedFuncs.length + m.funcs.length

/-- The size of the memory index space. -/
def memCount (m : Module) : Nat :=
  m.importedMems.length + m.mems.length

end Module

end WasmBinary
