/-
  The writers spend as few bytes as the format allows.

  1. **Lengths** — a number takes the least number of groups whose bits hold it: seven bits to a
     group, and of the bits of a signed number one is the sign (`isLeast_length_encodeUnsigned`,
     `isLeast_length_encodeSigned`).  Both writers stop for the same reason: what is left fits into
     one group, and a number fits into one group more exactly if what is above its lowest group fits
     (`Grouped.length_le_iff`).

  2. **Spellings** — the readers take padded numbers too.  None of them is shorter than what is
     written for its value, and one that is as short is what is written (`Padded`).  The reader puts
     a group below what it has read, and the writer takes the same group off again; only where the
     writer is done already, the spelling is longer (`Grouped.padded_cons`).
-/
import Mathlib.Order.Bounds.Basic
import WasmBinary.Proofs.Leb128.Signed

namespace WasmBinary.Leb128

/-! ## Lengths -/

section Grouped

variable {α : Type} {enc : α → Bytes} {last : α → Prop} {low : α → Nat} {high : α → α}

/-- Every number has at least one group, also zero. -/
theorem Grouped.length_pos (henc : Grouped enc last low high) (x : α) : 1 ≤ (enc x).length := by
  by_cases hx : last x
  · rw [henc.of_last x hx]
    exact Nat.le_refl 1
  · rw [henc.of_more x hx, List.length_cons]
    exact Nat.le_add_left 1 _

/-- As many groups are enough as the number fits into, where one more group is room for one more
    group of the number. -/
theorem Grouped.length_le_iff (henc : Grouped enc last low high) (fits : Nat → α → Prop)
    (hlast : ∀ x, last x → last (high x)) (hone : ∀ x, fits 1 x ↔ last x)
    (hmore : ∀ n x, fits (n + 2) x ↔ fits (n + 1) (high x)) (n : Nat) (x : α) :
    (enc x).length ≤ n + 1 ↔ fits (n + 1) x := by
  induction n generalizing x with
  | zero =>
    rw [hone]
    by_cases hx : last x
    · rw [henc.of_last x hx]
      exact iff_of_true (Nat.le_refl 1) hx
    · have hpos := henc.length_pos (high x)
      rw [henc.of_more x hx, List.length_cons]
      exact iff_of_false (by omega) hx
  | succ n ih =>
    rw [hmore, ← ih]
    by_cases hx : last x
    · rw [henc.of_last x hx, henc.of_last (high x) (hlast x hx)]
      exact iff_of_true (Nat.le_add_left 1 _) (Nat.le_add_left 1 _)
    · rw [henc.of_more x hx, List.length_cons]
      exact Nat.add_le_add_iff_right

/-- So what is written has the least number of groups that the number fits into. -/
theorem Grouped.isLeast_length (henc : Grouped enc last low high) {fits : Nat → α → Prop}
    (hfits : ∀ n x, (enc x).length ≤ n + 1 ↔ fits (n + 1) x) (x : α) :
    IsLeast {n | 1 ≤ n ∧ fits n x} (enc x).length := by
  obtain ⟨k, hk⟩ : ∃ k, (enc x).length = k + 1 :=
    ⟨(enc x).length - 1, (Nat.sub_add_cancel (henc.length_pos x)).symm⟩
  constructor
  · refine ⟨henc.length_pos x, ?_⟩
    rw [hk]
    exact (hfits k x).mp (Nat.le_of_eq hk)
  · rintro n ⟨hpos, hn⟩
    obtain ⟨m, rfl⟩ : ∃ m, n = m + 1 := ⟨n - 1, by omega⟩
    exact (hfits m x).mpr hn

end Grouped

/-- The bits of `n` groups hold the number. -/
def FitsUnsigned (n v : Nat) : Prop :=
  v < 2 ^ (7 * n)

/-- The bits of `n` groups, less one for the sign, hold the number. -/
def FitsSigned (n : Nat) (v : Int) : Prop :=
  -2 ^ (7 * n - 1) ≤ v ∧ v < 2 ^ (7 * n - 1)

/-- Unsigned numbers fit into groups by their bits: one more group is room for a number 128 times as
    large. -/
theorem length_encodeUnsigned_le_iff (n v : Nat) :
    (encodeUnsigned v).length ≤ n + 1 ↔ FitsUnsigned (n + 1) v := by
  refine encodeUnsigned_grouped.length_le_iff FitsUnsigned ?_ ?_ ?_ n v
  · intro v hv
    omega
  · intro v
    exact Iff.rfl
  · intro n v
    -- one group more is seven bits more
    have hpow : 2 ^ (7 * (n + 2)) = 2 ^ (7 * (n + 1)) * 128 := by
      rw [Nat.mul_succ, Nat.pow_add]
    rw [FitsUnsigned, FitsUnsigned, hpow]
    exact (Nat.div_lt_iff_lt_mul (by omega)).symm

/-- So do signed ones, where the sign takes one bit of the last group. -/
theorem length_encodeSigned_le_iff (n : Nat) (v : Int) :
    (encodeSigned v).length ≤ n + 1 ↔ FitsSigned (n + 1) v := by
  refine encodeSigned_grouped.length_le_iff FitsSigned ?_ ?_ ?_ n v
  · intro v hv
    omega
  · intro v
    exact Iff.rfl
  · intro n v
    have hbits : 7 * (n + 2) - 1 = 7 * (n + 1) - 1 + 7 := by omega
    have hpow : (2 : Int) ^ (7 * (n + 2) - 1) = 2 ^ (7 * (n + 1) - 1) * 128 := by
      rw [hbits, Int.pow_add]
      rfl
    rw [FitsSigned, FitsSigned, hpow]
    omega

/-- No unsigned number is written with more groups than it needs. -/
theorem isLeast_length_encodeUnsigned (v : Nat) :
    IsLeast {n | 1 ≤ n ∧ FitsUnsigned n v} (encodeUnsigned v).length :=
  encodeUnsigned_grouped.isLeast_length length_encodeUnsigned_le_iff v

/-- And no signed one is. -/
theorem isLeast_length_encodeSigned (v : Int) :
    IsLeast {n | 1 ≤ n ∧ FitsSigned n v} (encodeSigned v).length :=
  encodeSigned_grouped.isLeast_length length_encodeSigned_le_iff v

/-! ## Spellings -/

/-- A spelling of a number that is no shorter than what is written for it, and is what is written if
    it is as short. -/
structure Padded {α : Type} (enc : α → Bytes) (x : α) (digits : Bytes) : Prop where
  length_le : (enc x).length ≤ digits.length
  eq_of_length : digits.length = (enc x).length → digits = enc x

/-- The same with the length of a reading in place of the spelling's. -/
theorem Padded.of_length {α : Type} {enc : α → Bytes} {x : α} {digits : Bytes} {n : Nat}
    (h : Padded enc x digits) (hlen : digits.length = n) :
    (enc x).length ≤ n ∧ (n = (enc x).length ↔ digits = enc x) := by
  subst hlen
  exact ⟨h.length_le, h.eq_of_length, congrArg List.length⟩

/-- What is written is not padded. -/
theorem Padded.of_eq {α : Type} {enc : α → Bytes} {x : α} {digits : Bytes} (h : enc x = digits) :
    Padded enc x digits :=
  ⟨Nat.le_of_eq (congrArg List.length h), fun _ => h.symm⟩

/-- One more group below a spelling of what is above it. -/
theorem Grouped.padded_cons {α : Type} {enc : α → Bytes} {last : α → Prop} {low : α → Nat}
    {high : α → α} (henc : Grouped enc last low high) {x : α} {b : UInt8} {digits : Bytes}
    (hb : (low x + 128).toUInt8 = b) (hne : digits ≠ []) (h : Padded enc (high x) digits) :
    Padded enc x (b :: digits) := by
  have hpos : 1 ≤ digits.length := List.length_pos_iff.mpr hne
  by_cases hx : last x
  · -- the writer has one byte for what is spelled with two at least
    constructor
    · rw [henc.of_last x hx, List.length_cons]
      exact Nat.le_add_left 1 _
    · intro hlen
      rw [henc.of_last x hx, List.length_cons, List.length_singleton] at hlen
      omega
  · constructor
    · rw [henc.of_more x hx, List.length_cons, List.length_cons]
      exact Nat.succ_le_succ h.length_le
    · intro hlen
      rw [henc.of_more x hx, List.length_cons, List.length_cons] at hlen
      rw [henc.of_more x hx, hb, h.eq_of_length (Nat.succ.inj hlen)]

/-- A byte below 128 is what is written for the number that it is. -/
theorem encodeUnsigned_toNat {b : UInt8} (h : b < 128) : encodeUnsigned b.toNat = [b] := by
  rw [encodeUnsigned_of_lt (UInt8.lt_iff_toNat_lt.mp h)]
  exact congrArg ([·]) UInt8.ofNat_toNat

/-- It is also what is written for the number that it is as a last group with a sign. -/
theorem encodeSigned_signedGroup {b : UInt8} (h : b < 128) :
    encodeSigned (signedGroup b) = [b] := by
  have hb : b.toNat < 128 := UInt8.lt_iff_toNat_lt.mp h
  -- bit 6 is the sign, so that the group is between -64 and 63
  have hgroup : (-64 ≤ signedGroup b ∧ signedGroup b < 64)
      ∧ (signedGroup b % 128).toNat = b.toNat := by
    rw [signedGroup]
    by_cases hs : b < 64
    · have hs' : b.toNat < 64 := UInt8.lt_iff_toNat_lt.mp hs
      rw [if_pos hs]
      omega
    · have hs' : 64 ≤ b.toNat := UInt8.le_iff_toNat_le.mp (UInt8.not_lt.mp hs)
      rw [if_neg hs]
      omega
  rw [encodeSigned_of_small hgroup.1, hgroup.2]
  exact congrArg ([·]) UInt8.ofNat_toNat

/-- A byte that says that more follow is what the writer makes of its group. -/
theorem toUInt8_of_more {b : UInt8} (h : 128 ≤ b) : (b.toNat - 128 + 128).toUInt8 = b := by
  have hge : 128 ≤ b.toNat := UInt8.le_iff_toNat_le.mp h
  rw [Nat.sub_add_cancel hge]
  exact UInt8.ofNat_toNat

/-- The writer takes off the group that a further byte puts on, so no spelling is shorter than what
    is written. -/
theorem Grouped.padded {α : Type} {enc : α → Bytes} {last : α → Prop} {low : α → Nat}
    {high : α → α} (henc : Grouped enc last low high) (spelled : Bytes → UInt8 → α)
    (hone : ∀ b < 128, enc (spelled [] b) = [b])
    (hlow : ∀ b more c, 128 ≤ b → low (spelled (b :: more) c) = b.toNat - 128)
    (hhigh : ∀ b more c, 128 ≤ b → high (spelled (b :: more) c) = spelled more c)
    {more : Bytes} {c : UInt8} (hmore : ∀ b ∈ more, 128 ≤ b) (hc : c < 128) :
    Padded enc (spelled more c) (more ++ [c]) := by
  induction more with
  | nil => exact .of_eq (hone c hc)
  | cons b more ih =>
    obtain ⟨hb, hmore⟩ := List.forall_mem_cons.mp hmore
    refine henc.padded_cons ?_ (List.append_ne_nil_of_right_ne_nil _ (List.cons_ne_nil c [])) ?_
    · rw [hlow b more c hb, toUInt8_of_more hb]
    · rw [hhigh b more c hb]
      exact ih hmore

/-- No word of the unsigned language is shorter than what is written for its value. -/
theorem padded_value {more : Bytes} {last : UInt8} (hmore : ∀ b ∈ more, 128 ≤ b)
    (hlast : last < 128) : Padded encodeUnsigned (value (more ++ [last])) (more ++ [last]) := by
  have hone : ∀ b < 128, encodeUnsigned (value ([] ++ [b])) = [b] := by
    intro b hb
    rw [List.nil_append, value_singleton hb, encodeUnsigned_toNat hb]
  refine encodeUnsigned_grouped.padded (fun more last => value (more ++ [last])) hone ?_ ?_
    hmore hlast
  all_goals
    intro b more c hb
    have hge : 128 ≤ b.toNat := UInt8.le_iff_toNat_le.mp hb
    have hlt : b.toNat < 256 := b.toNat_lt
    rw [List.cons_append, value]
    omega

/-- No word of the signed language is either. -/
theorem padded_signedValue {more : Bytes} {last : UInt8} (hmore : ∀ b ∈ more, 128 ≤ b)
    (hlast : last < 128) : Padded encodeSigned (signedValue more last) (more ++ [last]) := by
  have hone : ∀ b < 128, encodeSigned (signedValue [] b) = [b] := by
    intro b hb
    rw [signedValue_nil hb, encodeSigned_signedGroup hb]
  refine encodeSigned_grouped.padded signedValue hone ?_ ?_ hmore hlast
  all_goals
    intro b more c hb
    have hge : 128 ≤ b.toNat := UInt8.le_iff_toNat_le.mp hb
    have hlt : b.toNat < 256 := b.toNat_lt
    rw [signedValue_cons hb]
    omega

/-- A word in front of the input is what a region of its length cuts out. -/
theorem take_word (more rest : Bytes) (last : UInt8) :
    (more ++ last :: rest).take (more.length + 1) = more ++ [last] := by
  rw [List.take_length_add_append, List.take_succ_cons, List.take_zero]

/-- What the unsigned reader takes from the front of an input is such a word. -/
theorem padded_of_decodeUnsigned {data : Bytes} {r : Reading Nat}
    (h : decodeUnsigned data = .ok r) :
    Padded encodeUnsigned r.value (data.take r.length) ∧
      (data.take r.length).length = r.length := by
  obtain ⟨more, last, rest, rfl, hmore, hlast, -, -, rfl⟩ := decodeUnsignedWithin_eq_ok_iff.mp h
  rw [take_word]
  exact ⟨padded_value hmore hlast, List.length_append⟩

/-- And so is what the signed reader takes. -/
theorem padded_of_decodeSigned {data : Bytes} {r : Reading Int} (h : decodeSigned data = .ok r) :
    Padded encodeSigned r.value (data.take r.length) ∧
      (data.take r.length).length = r.length := by
  obtain ⟨more, last, rest, rfl, hmore, hlast, -, -, rfl⟩ := decodeSignedWithin_eq_ok_iff.mp h
  rw [take_word]
  exact ⟨padded_signedValue hmore hlast, List.length_append⟩

/-! ## At a position -/

/-- **The writers are canonical.**  Whatever is read as a number takes at least as many bytes as
    are written for its value, and exactly as many only if it is what is written.  So what is
    written has the least number of groups that holds the value: no index or 32-bit constant takes
    more than five bytes, and no 64-bit number more than ten. -/
theorem encodings_shortest :
    (∀ data pos v n, readUnsigned data pos = .ok ⟨v, n⟩ →
      (encodeUnsigned v).length ≤ n ∧
      (n = (encodeUnsigned v).length ↔ Region.of ⟨pos, n⟩ data = encodeUnsigned v)) ∧
    (∀ data pos v n, readSigned data pos = .ok ⟨v, n⟩ →
      (encodeSigned v).length ≤ n ∧
      (n = (encodeSigned v).length ↔ Region.of ⟨pos, n⟩ data = encodeSigned v)) ∧
    (∀ v : Nat, IsLeast {n | 1 ≤ n ∧ v < 2 ^ (7 * n)} (encodeUnsigned v).length) ∧
    (∀ v : Int,
      IsLeast {n | 1 ≤ n ∧ -2 ^ (7 * n - 1) ≤ v ∧ v < 2 ^ (7 * n - 1)} (encodeSigned v).length) ∧
    (∀ idx : UInt32, (encodeUnsigned idx.toNat).length ≤ 5) ∧
    (∀ v : Int32, (encodeSigned v.toInt).length ≤ 5) ∧
    (∀ v : UInt64, (encodeUnsigned v.toNat).length ≤ 10) ∧
    (∀ v : Int64, (encodeSigned v.toInt).length ≤ 10) := by
  refine ⟨fun data pos v n h => ?_, fun data pos v n h => ?_, isLeast_length_encodeUnsigned,
    isLeast_length_encodeSigned, fun idx => ?_, fun v => ?_, fun v => ?_, fun v => ?_⟩
  · obtain ⟨hpadded, hlen⟩ := padded_of_decodeUnsigned (mapError_eq_ok.mp h)
    exact hpadded.of_length hlen
  · obtain ⟨hpadded, hlen⟩ := padded_of_decodeSigned (mapError_eq_ok.mp h)
    exact hpadded.of_length hlen
  · -- five groups have room for 35 bits, and ten for 70
    have hlt : idx.toNat < 2 ^ 32 := idx.toNat_lt
    refine (length_encodeUnsigned_le_iff 4 idx.toNat).mpr ?_
    show idx.toNat < 2 ^ 35
    omega
  · have hlow : -2 ^ 31 ≤ v.toInt := v.le_toInt
    have hhigh : v.toInt < 2 ^ 31 := v.toInt_lt
    refine (length_encodeSigned_le_iff 4 v.toInt).mpr ?_
    show -2 ^ 34 ≤ v.toInt ∧ v.toInt < 2 ^ 34
    omega
  · have hlt : v.toNat < 2 ^ 64 := v.toNat_lt
    refine (length_encodeUnsigned_le_iff 9 v.toNat).mpr ?_
    show v.toNat < 2 ^ 70
    omega
  · have hlow : -2 ^ 63 ≤ v.toInt := v.le_toInt
    have hhigh : v.toInt < 2 ^ 63 := v.toInt_lt
    refine (length_encodeSigned_le_iff 9 v.toInt).mpr ?_
    show -2 ^ 69 ≤ v.toInt ∧ v.toInt < 2 ^ 69
    omega

/-- A five with two groups of padding is read, and is not what is written; two groups for -65
    are. -/
theorem encodings_shortest_padded :
    readUnsigned [0x2A, 0x85, 0x80, 0x00] 1 = .ok ⟨5, 3⟩ ∧ (encodeUnsigned 5).length ≤ 3 ∧
    Region.of ⟨1, 3⟩ [0x2A, 0x85, 0x80, 0x00] ≠ encodeUnsigned 5 ∧
    readSigned [0xBF, 0x7F] 0 = .ok ⟨-65, 2⟩ ∧
    Region.of ⟨0, 2⟩ [0xBF, 0x7F] = encodeSigned (-65) := by
  have hread : readUnsigned [0x2A, 0x85, 0x80, 0x00] 1 = .ok ⟨5, 3⟩ := by decide
  have hsigned : readSigned [0xBF, 0x7F] 0 = .ok ⟨-65, 2⟩ := by decide
  obtain ⟨hle, hiff⟩ := encodings_shortest.1 _ _ _ _ hread
  obtain ⟨-, hsame⟩ := encodings_shortest.2.1 _ _ _ _ hsigned
  refine ⟨hread, hle, fun h => ?_, hsigned, hsame.mp ?_⟩
  · have hlen : 3 = (encodeUnsigned 5).length := hiff.mpr h
    rw [encodeUnsigned_of_lt (by omega)] at hlen
    nomatch hlen
  · rw [encodeSigned_of_large (by omega), encodeSigned_of_small (by omega)]
    rfl

end WasmBinary.Leb128
