/-
  Types and indices: what a declaration says about values, functions and memories.

  1. **Value types** have one-byte codes, counted down from `0x7F`.
  2. **Function types** list parameters and results; two of them are equal exactly when both
     lists are.  Their code `0x60` stands in front of the two vectors.
  3. **Limits** bound a memory in pages of 64 KiB.  A flag byte tells whether a maximum follows
     the minimum.
  4. **Indices** count declarations from zero, one space for each kind of declaration.
-/
import WasmBinary.Vec

namespace WasmBinary

/-! ## Value types -/

/-- The types of values. -/
inductive ValType
  | i32
  | i64
  | f32
  | f64
deriving DecidableEq, Repr

namespace ValType

/-- The byte that stands for a type. -/
def code : ValType → UInt8
  | i32 => 0x7F
  | i64 => 0x7E
  | f32 => 0x7D
  | f64 => 0x7C

/-- The type that a byte stands for, or what is said about a byte that stands for none. -/
def ofCode (b : UInt8) : Except String ValType :=
  if b = 0x7F then .ok i32
  else if b = 0x7E then .ok i64
  else if b = 0x7D then .ok f32
  else if b = 0x7C then .ok f64
  else .error "invalid ValType"

/-- A byte is read as the one type that it stands for. -/
theorem ofCode_eq_ok_iff {b : UInt8} {t : ValType} : ofCode b = .ok t ↔ t.code = b := by
  cases t <;> grind [ofCode, code]

@[simp] theorem ofCode_code (t : ValType) : ofCode t.code = .ok t :=
  ofCode_eq_ok_iff.mpr rfl

end ValType

/-! ## Function types -/

/-- What a function takes and what it gives back. -/
structure FuncType where
  params : List ValType := []
  results : List ValType := []
deriving DecidableEq, Repr

namespace FuncType

/-- The byte in front of every function type. -/
def tag : UInt8 := 0x60

/-- The tag, the vector of parameters and the vector of results. -/
def encode (t : FuncType) : Bytes :=
  tag :: (Vec.ofBytes (t.params.map ValType.code) ++ Vec.ofBytes (t.results.map ValType.code))

end FuncType

/-! ## Limits -/

/-- How many pages a memory has at first, and how many it may grow to. -/
structure Limits where
  min : UInt32
  max : Option UInt32 := none
deriving DecidableEq, Repr

/-- Flag `0x01` promises a maximum, flag `0x00` says that there is none. -/
def Limits.encode (l : Limits) : Bytes :=
  match l.max with
  | none => 0x00 :: Leb128.encodeUnsigned l.min.toNat
  | some max => 0x01 :: (Leb128.encodeUnsigned l.min.toNat ++ Leb128.encodeUnsigned max.toNat)

/-! ## Indices -/

/-- A position among the function types. -/
abbrev TypeIdx := UInt32

/-- A position among the functions, imported ones first. -/
abbrev FuncIdx := UInt32

/-- A position among the memories, imported ones first. -/
abbrev MemIdx := UInt32

/-- A position among the parameters and locals of a function. -/
abbrev LocalIdx := UInt32

end WasmBinary
