/-
  Writing numbers with the operations of a 64-bit word.

  `encodeUnsigned` and `encodeSigned` divide: they take remainders and quotients by 128 of numbers
  that have no bound.  A word is written with masks and shifts instead.  The two are the same, byte
  for byte.

  1. **Groups** — the mask of the low seven bits is the remainder, of a signed word too, and the
     shift by seven is the quotient: a signed word draws its sign in, so that the quotient is
     rounded down (`toInt_shiftRight_seven`).

  2. **Unsigned words** — the writer looks behind the shift: it stops when nothing is left
     (`splitUnsigned_eq`).  A signed word that is not negative may be taken for an unsigned one
     (`encodeNonNegative_eq`).

  3. **Signed words** — the crux is when to stop.  What is left is to be nothing but the sign that
     bit 6 of the group shows already: no bits at all above a clear one, or only ones above a set
     one.  That is so exactly for the numbers in `[-64, 64)` (`signShown_iff`), and then one group
     says it all (`splitSigned_eq`).
-/
import WasmBinary.Proofs.Leb128.Signed

namespace WasmBinary.Leb128

/-! ## Groups -/

/-- Seven bits of a word shifted out leave the quotient. -/
theorem toNat_shiftRight_seven (word : UInt64) : (word >>> 7).toNat = word.toNat / 128 := by
  rw [UInt64.toNat_shiftRight]
  exact Nat.shiftRight_eq_div_pow ..

/-- The low seven bits of a word are the remainder. -/
theorem toNat_low (word : UInt64) : (word &&& 0x7F).toUInt8.toNat = word.toNat % 128 := by
  have hmask : word.toNat &&& 127 = word.toNat % 128 := Nat.and_two_pow_sub_one_eq_mod _ 7
  rw [UInt64.toNat_toUInt8, UInt64.toNat_and]
  show (word.toNat &&& 127) % 256 = _
  omega

/-- A signed word draws its sign in when bits are shifted out, so the quotient is rounded down. -/
theorem toInt_shiftRight_seven (word : Int64) : (word >>> 7).toInt = word.toInt / 128 := by
  rw [← Int64.toInt_toBitVec, Int64.toBitVec_shiftRight]
  show (word.toBitVec.sshiftRight 7).toInt = _
  rw [BitVec.toInt_sshiftRight, Int.shiftRight_eq_div_pow, Int64.toInt_toBitVec]
  rfl

/-- The low seven bits of a signed word are the remainder as well: the sign has a weight that 128
    divides. -/
theorem toNat_low_signed (word : Int64) :
    (word &&& 0x7F).toUInt64.toUInt8.toNat = (word.toInt % 128).toNat := by
  show (word.toUInt64 &&& 0x7F).toUInt8.toNat = _
  have hnat : word.toUInt64.toNat = word.toBitVec.toNat := rfl
  rw [toNat_low, hnat, ← Int64.toInt_toBitVec, BitVec.toInt_eq_toNat_cond]
  split <;> omega

/-- A byte of seven bits with the eighth one set, which says that more follow. -/
theorem or_more {b : UInt8} {n : Nat} (hb : b.toNat = n) (hn : n < 128) :
    b ||| 0x80 = (n + 128).toUInt8 := by
  have hor : (b ||| 0x80).toNat = n + 128 := by
    rw [UInt8.toNat_or, hb, Nat.or_comm]
    exact (Nat.two_pow_add_eq_or_of_lt (i := 7) hn 1).symm.trans (Nat.add_comm _ _)
  exact UInt8.toNat_inj.mp (hor.trans (toNat_toUInt8 (by omega)).symm)

theorem eq_toUInt8 {b : UInt8} {n : Nat} (hb : b.toNat = n) : b = n.toUInt8 := by
  rw [← hb]
  exact UInt8.ofNat_toNat.symm

/-! ## Unsigned words -/

/-- Writes a word from its low end: seven bits, then whatever is left when they are shifted out,
    until nothing is. -/
def splitUnsigned (word : UInt64) : Bytes :=
  let group := (word &&& 0x7F).toUInt8
  let rest := word >>> 7
  if rest = 0 then [group] else (group ||| 0x80) :: splitUnsigned rest
termination_by word.toNat
decreasing_by
  have hrest := toNat_shiftRight_seven word
  have hpos : (word >>> 7).toNat ≠ 0 := fun h0 => ‹¬ _› (UInt64.toNat_inj.mp h0)
  omega

/-- **An unsigned word is written as its number is.** -/
theorem splitUnsigned_eq (word : UInt64) : splitUnsigned word = encodeUnsigned word.toNat := by
  fun_induction splitUnsigned word with
  | case1 word group rest hrest =>
    -- nothing is left exactly when the number is one group
    have hzero : word.toNat / 128 = 0 := by
      rw [← toNat_shiftRight_seven, show word >>> 7 = 0 from hrest]
      rfl
    have hlt : word.toNat < 128 := by omega
    have hgroup : group = word.toNat.toUInt8 :=
      eq_toUInt8 ((toNat_low word).trans (Nat.mod_eq_of_lt hlt))
    rw [encodeUnsigned_of_lt hlt, hgroup]
  | case2 word group rest hrest ih =>
    have hpos : (word >>> 7).toNat ≠ 0 := fun h0 => hrest (UInt64.toNat_inj.mp h0)
    rw [toNat_shiftRight_seven] at hpos
    have hge : ¬ word.toNat < 128 := by omega
    rw [ih, encodeUnsigned_of_ge hge, toNat_shiftRight_seven,
      or_more (toNat_low word) (Nat.mod_lt _ (by omega))]

/-- A signed word is refused for its sign, and otherwise written as the unsigned word of the same
    bits. -/
theorem encodeNonNegative_eq (word : Int64) :
    encodeNonNegative word.toInt
      = if word < 0 then .error (.negative word.toInt)
        else .ok (splitUnsigned word.toUInt64) := by
  have hneg : word < 0 ↔ word.toInt < 0 := Int64.lt_iff_toInt_lt
  rw [encodeNonNegative]
  by_cases h : word < 0
  · rw [if_pos h, if_pos (hneg.mp h)]
  · have hnat : word.toUInt64.toNat = word.toInt.toNat := by
      have hbits : word.toUInt64.toNat = word.toBitVec.toNat := rfl
      rw [hneg, ← Int64.toInt_toBitVec, BitVec.toInt_eq_toNat_cond] at h
      rw [hbits, ← Int64.toInt_toBitVec, BitVec.toInt_eq_toNat_cond]
      split <;> omega
    rw [if_neg h, if_neg (hneg.not.mp h), splitUnsigned_eq, hnat]

/-! ## Signed words -/

/-- Whether all that is left of a word is the sign that its last group shows. -/
def signShown (group : UInt8) (rest : Int64) : Prop :=
  rest = 0 ∧ group &&& 0x40 = 0 ∨ rest = -1 ∧ group &&& 0x40 ≠ 0

instance (group : UInt8) (rest : Int64) : Decidable (signShown group rest) :=
  inferInstanceAs (Decidable (_ ∨ _))

/-- One group shows the sign of exactly those numbers that seven bits have room for. -/
theorem signShown_iff (word : Int64) :
    signShown (word &&& 0x7F).toUInt64.toUInt8 (word >>> 7) ↔
      -64 ≤ word.toInt ∧ word.toInt < 64 := by
  have hzero : word >>> 7 = 0 ↔ word.toInt / 128 = 0 := by
    rw [← toInt_shiftRight_seven, ← Int64.toInt_inj]
    rfl
  have hones : word >>> 7 = -1 ↔ word.toInt / 128 = -1 := by
    rw [← toInt_shiftRight_seven, ← Int64.toInt_inj]
    rfl
  rw [signShown, and_sign_eq_zero_iff, toNat_low_signed, hzero, ne_eq, and_sign_eq_zero_iff,
    toNat_low_signed, hones]
  omega

/-- Writes a signed word from its low end, until only a sign is left that is shown already. -/
def splitSigned (word : Int64) : Bytes :=
  let group := (word &&& 0x7F).toUInt64.toUInt8
  let rest := word >>> 7
  if signShown group rest then [group] else (group ||| 0x80) :: splitSigned rest
termination_by word.toInt.natAbs
decreasing_by
  have hrest := toInt_shiftRight_seven word
  have hlarge := (signShown_iff word).not.mp ‹_›
  omega

/-- **A signed word is written as its number is.** -/
theorem splitSigned_eq (word : Int64) : splitSigned word = encodeSigned word.toInt := by
  fun_induction splitSigned word with
  | case1 word group rest hshown =>
    have hgroup : group = (word.toInt % 128).toNat.toUInt8 := eq_toUInt8 (toNat_low_signed word)
    rw [encodeSigned_of_small ((signShown_iff word).mp hshown), hgroup]
  | case2 word group rest hshown ih =>
    have hlow : (word.toInt % 128).toNat < 128 := by omega
    rw [ih, encodeSigned_of_large ((signShown_iff word).not.mp hshown), toInt_shiftRight_seven,
      or_more (toNat_low_signed word) hlow]

end WasmBinary.Leb128
