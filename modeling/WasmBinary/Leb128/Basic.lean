/-
  LEB128: integers as base-128 groups, least significant group first.

  Every byte carries seven bits of the number.  Bit 7 says that another group follows, so the
  byte that ends a number is the first one below 128.

  1. **Writing** — `encodeUnsigned` and `encodeSigned` write the fewest groups.  For a signed
     number the last group also carries the sign in its bit 6, so the writer stops as soon as the
     number lies in `[-64, 64)`: everything above is then sign extension of that bit.

  2. **Reading** — `decodeUnsigned` and `decodeSigned` take the number in front of a byte string
     and give its value with the number of bytes it took.  Padded encodings are read too, up to
     ten bytes, which is what sixty-four bits need.  Nine groups carry 63 bits, so the tenth byte
     may add a single bit: an unsigned one must be 0 or 1, and the seven bits of a signed one must
     be all clear or all set.

  3. **Failing** — reading fails in two ways.  The input may end before the number does
     (`unterminated`), or the number may leave sixty-four bits (`overflow`).
-/
import WasmBinary.Bytes

namespace WasmBinary.Leb128

/-! ## Writing -/

/-- The shortest encoding of a natural number. -/
def encodeUnsigned (n : Nat) : Bytes :=
  if n < 128 then [n.toUInt8]
  else (n % 128 + 128).toUInt8 :: encodeUnsigned (n / 128)
termination_by n
decreasing_by omega

/-- The shortest encoding of an integer. -/
def encodeSigned (v : Int) : Bytes :=
  if -64 ≤ v ∧ v < 64 then [(v % 128).toNat.toUInt8]
  else ((v % 128).toNat + 128).toUInt8 :: encodeSigned (v / 128)
termination_by v.natAbs
decreasing_by omega

/-! ## Reading -/

/-- Why no number could be read. -/
inductive Fault
  /-- The input ended before a byte below 128. -/
  | unterminated
  /-- The number does not fit in sixty-four bits. -/
  | overflow
deriving DecidableEq, Repr

/-- A number read from the front of a byte string, with the number of bytes it took. -/
structure Reading (α : Type) where
  value : α
  length : Nat
deriving DecidableEq, Repr

/-- A longer reading: the group of `b`, which says that more follow, below the groups of `r`. -/
def Reading.below (b : UInt8) (r : Reading Nat) : Reading Nat :=
  ⟨b.toNat - 128 + 128 * r.value, r.length + 1⟩

/-- The signed counterpart of `Reading.below`. -/
def Reading.belowSigned (b : UInt8) (r : Reading Int) : Reading Int :=
  ⟨b.toNat - 128 + 128 * r.value, r.length + 1⟩

/-- Reads an unsigned number of at most `room + 1` groups, where the last of these may only
    hold one bit. -/
def decodeUnsignedWithin : Nat → Bytes → Except Fault (Reading Nat)
  | _, [] => .error .unterminated
  | 0, b :: _ => if b ≤ 1 then .ok ⟨b.toNat, 1⟩ else .error .overflow
  | room + 1, b :: rest =>
      if b < 128 then .ok ⟨b.toNat, 1⟩
      else (decodeUnsignedWithin room rest).map (Reading.below b)

/-- Reads the unsigned number in front. -/
def decodeUnsigned (data : Bytes) : Except Fault (Reading Nat) :=
  decodeUnsignedWithin 9 data

/-- The value of the group that ends a signed number: bit 6 is its sign. -/
def signedGroup (b : UInt8) : Int :=
  if b < 64 then b.toNat else b.toNat - 128

/-- Reads a signed number of at most `room + 1` groups, where the last of these may only hold a
    sign.  A last group that holds a sign and yet asks for another group is at fault for what
    follows it: nothing (`unterminated`) or a group too many (`overflow`). -/
def decodeSignedWithin : Nat → Bytes → Except Fault (Reading Int)
  | _, [] => .error .unterminated
  | 0, b :: rest =>
      if b = 0x00 ∨ b = 0x7F then .ok ⟨signedGroup b, 1⟩
      else if (b = 0x80 ∨ b = 0xFF) ∧ rest = [] then .error .unterminated
      else .error .overflow
  | room + 1, b :: rest =>
      if b < 128 then .ok ⟨signedGroup b, 1⟩
      else (decodeSignedWithin room rest).map (Reading.belowSigned b)

/-- Reads the signed number in front. -/
def decodeSigned (data : Bytes) : Except Fault (Reading Int) :=
  decodeSignedWithin 9 data

end WasmBinary.Leb128
