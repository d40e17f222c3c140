/-
  Writing a module.

  1. The header comes first, then the sections in the order of their ids.  A section whose list of
     declarations is empty is left out.

  2. A function is split over two sections: the function section holds the index of its type, the
     code section its locals and its body, prefixed by their length.  Both sections list the
     functions in the same order.

  3. Beside the bytes the writer records how many bytes each part took (`SectionSizes`), header
     first.  The record is made from the parts and not from the bytes, so that an independent walk
     over the bytes can be compared with it.
-/
import WasmBinary.Module.Basic
import WasmBinary.Section.Basic
import WasmBinary.Sum

namespace WasmBinary

/-! ## Declarations -/

/-- Where it comes from, what it is called there, and what it is. -/
def Import.encode (i : Import) : Bytes :=
  Vec.ofName i.source ++ Vec.ofName i.field ++ i.kind.code ::
    match i.desc with
    | .func typ => Leb128.encodeUnsigned typ.toNat
    | .mem limits => limits.encode

/-- The name, the kind and the index. -/
def Export.encode (e : Export) : Bytes :=
  Vec.ofName e.name ++ e.kind.code :: Leb128.encodeUnsigned e.idx.toNat

namespace Func

/-- The entry in the function section. -/
def encodeType (f : Func) : Bytes :=
  Leb128.encodeUnsigned f.typ.toNat

/-- The runs of locals, then the instructions. -/
def encodeBody (f : Func) : Bytes :=
  Vec.ofItems ((LocalRun.group f.locals).map LocalRun.encode) ++ Expr.encode f.body

/-- The entry in the code section: the body behind its length. -/
def encodeEntry (f : Func) : Bytes :=
  Vec.ofBytes f.encodeBody

end Func

/-! ## Sizes -/

/-- How many bytes each part of a module takes, in the order of the parts. -/
structure SectionSizes where
  entries : List (SectionName × Nat) := []
deriving DecidableEq, Repr

namespace SectionSizes

/-- The size of the first part that a text designates. -/
def get? (s : SectionSizes) (name : String) : Option Nat :=
  (s.entries.find? (·.1.designatedBy name)).map (·.2)

/-- The size of all parts together. -/
def total (s : SectionSizes) : Nat :=
  sumOf (s.entries.map (·.2))

end SectionSizes

/-- A written module, with the sizes of its parts. -/
structure Encoded where
  bytes : Bytes
  sizes : SectionSizes
deriving DecidableEq, Repr

/-! ## Modules -/

namespace Module

/-- The sections of a module, in order. -/
def sections (m : Module) : List Section :=
  [ Section.ofItems? .types (m.types.map FuncType.encode),
    Section.ofItems? .imports (m.imports.map Import.encode),
    Section.ofItems? .functions (m.funcs.map Func.encodeType),
    Section.ofItems? .memories (m.mems.map Limits.encode),
    Section.ofItems? .exports (m.exports.map Export.encode),
    Section.ofItems? .code (m.funcs.map Func.encodeEntry) ].filterMap (fun s => s)

/-- Writes a module as it is, whether or not it keeps the rules. -/
def write (m : Module) : Encoded where
  bytes := Header.bytes ++ m.sections.flatMap Section.encode
  sizes := ⟨(.header, Header.length) ::
    m.sections.map fun s => (.known s.kind, s.encode.length)⟩

end Module

end WasmBinary
