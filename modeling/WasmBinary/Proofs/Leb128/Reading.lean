/-
  Reading an unsigned number looks at its own bytes and at nothing behind them.

  1. **Locality** — a reading stays the same when bytes are appended (`decodeUnsigned_append`) and
     when everything behind the number is cut off (`decodeUnsigned_take`).  So a number that was
     read is a SPELLING of its value, a byte string that is read to its end, with arbitrary bytes
     behind it (`decodeUnsigned_eq_ok_iff`).

  2. **Round trip** — what the writer writes is a spelling of the number, for numbers below 2^64.
     The bound in the induction is `2 * 128 ^ room`: every further group multiplies it by 128,
     and nine of them above a single bit are sixty-four bits.
-/
import Mathlib.Algebra.Group.Nat.Defs
import WasmBinary.Leb128.Read
import WasmBinary.Proofs.PrefixFree

namespace WasmBinary.Leb128

/-! ## Longer readings and positions -/

section Outcome

variable {α β : Type} {x : Except Fault α}

/-- A longer reading comes from a reading of what is behind the first group. -/
theorem map_eq_ok {f : α → β} {r : β} (h : x.map f = .ok r) : ∃ r', x = .ok r' ∧ r = f r' := by
  cases x with
  | error fault => nomatch h
  | ok r' => exact ⟨r', rfl, (Except.ok.inj h).symm⟩

/-- What is at fault behind the first group is at fault altogether. -/
theorem map_eq_error {f : α → β} {fault : Fault} :
    x.map f = .error fault ↔ x = .error fault := by
  cases x with
  | error found => rw [Except.map, Except.error.injEq, Except.error.injEq]
  | ok r => exact ⟨fun h => (nomatch h), fun h => (nomatch h)⟩

/-- A position does not change what is read there. -/
theorem mapError_eq_ok {pos : Nat} {r : α} : x.mapError (Error.number pos) = .ok r ↔ x = .ok r := by
  cases x with
  | error fault => exact ⟨fun h => (nomatch h), fun h => (nomatch h)⟩
  | ok found =>
    show Except.ok found = Except.ok r ↔ _
    rw [Except.ok.injEq, Except.ok.injEq]

/-- An error at a position is a fault there, and tells the position. -/
theorem mapError_eq_error {pos : Nat} {e : Error} :
    x.mapError (Error.number pos) = .error e ↔
      ∃ fault, e = .number pos fault ∧ x = .error fault := by
  cases x with
  | error found =>
    show Except.error (Error.number pos found) = Except.error e ↔ _
    simp [eq_comm]
  | ok r =>
    show Except.ok r = Except.error e ↔ _
    simp

/-- The position in an error is the one that was asked for. -/
theorem mapError_eq_number {pos : Nat} {fault : Fault} :
    x.mapError (Error.number pos) = .error (.number pos fault) ↔ x = .error fault := by
  rw [mapError_eq_error]
  simp

/-- What is read is what there is no error about. -/
theorem toOption_eq_some {y : Except Error α} {r : α} : y.toOption = some r ↔ y = .ok r := by
  cases y with
  | error e => exact ⟨fun h => (nomatch h), fun h => (nomatch h)⟩
  | ok found =>
    show some found = some r ↔ _
    rw [Option.some.injEq, Except.ok.injEq]

end Outcome

/-! ## Locality -/

/-- Reading stops at the last byte of a number, so that bytes behind it change nothing. -/
theorem decodeUnsignedWithin_append {room : Nat} {data : Bytes} {r : Reading Nat} (rest : Bytes)
    (h : decodeUnsignedWithin room data = .ok r) :
    decodeUnsignedWithin room (data ++ rest) = .ok r := by
  fun_induction decodeUnsignedWithin room data generalizing r with
  | case1 => nomatch h
  | case2 b tail hb => simpa [decodeUnsignedWithin, hb] using h
  | case3 => nomatch h
  | case4 room b tail hb => simpa [decodeUnsignedWithin, hb] using h
  | case5 room b tail hb ih =>
    obtain ⟨r', hr', rfl⟩ := map_eq_ok h
    rw [List.cons_append, decodeUnsignedWithin, if_neg hb, ih hr']
    rfl

/-- A number takes at least one byte, and no more than there are; its own bytes are enough. -/
theorem decodeUnsignedWithin_take {room : Nat} {data : Bytes} {r : Reading Nat}
    (h : decodeUnsignedWithin room data = .ok r) :
    1 ≤ r.length ∧ r.length ≤ data.length ∧
      decodeUnsignedWithin room (data.take r.length) = .ok r := by
  fun_induction decodeUnsignedWithin room data generalizing r with
  | case1 => nomatch h
  | case2 b tail hb =>
    obtain rfl := Except.ok.inj h
    exact ⟨Nat.le_refl 1, by simp, by simp [decodeUnsignedWithin, hb]⟩
  | case3 => nomatch h
  | case4 room b tail hb =>
    obtain rfl := Except.ok.inj h
    exact ⟨Nat.le_refl 1, by simp, by simp [decodeUnsignedWithin, hb]⟩
  | case5 room b tail hb ih =>
    obtain ⟨r', hr', rfl⟩ := map_eq_ok h
    obtain ⟨hpos, hle, htake⟩ := ih hr'
    refine ⟨Nat.le_add_left 1 r'.length, Nat.succ_le_succ hle, ?_⟩
    show decodeUnsignedWithin (room + 1) (b :: tail.take r'.length) = _
    rw [decodeUnsignedWithin, if_neg hb, htake]
    rfl

/-- A reading has no more groups than there is room for. -/
theorem decodeUnsignedWithin_length_le {room : Nat} {data : Bytes} {r : Reading Nat}
    (h : decodeUnsignedWithin room data = .ok r) : r.length ≤ room + 1 := by
  fun_induction decodeUnsignedWithin room data generalizing r with
  | case1 => nomatch h
  | case2 b tail hb =>
    obtain rfl := Except.ok.inj h
    exact Nat.le_refl 1
  | case3 => nomatch h
  | case4 room b tail hb =>
    obtain rfl := Except.ok.inj h
    exact Nat.le_add_left 1 (room + 1)
  | case5 room b tail hb ih =>
    obtain ⟨r', hr', rfl⟩ := map_eq_ok h
    exact Nat.succ_le_succ (ih hr')

/-- The same with the room that there is for 64 bits. -/
theorem decodeUnsigned_append {data : Bytes} {r : Reading Nat} (rest : Bytes)
    (h : decodeUnsigned data = .ok r) : decodeUnsigned (data ++ rest) = .ok r :=
  decodeUnsignedWithin_append rest h

/-- The bytes of a number are enough to read it. -/
theorem decodeUnsigned_take {data : Bytes} {r : Reading Nat} (h : decodeUnsigned data = .ok r) :
    decodeUnsigned (data.take r.length) = .ok r :=
  (decodeUnsignedWithin_take h).2.2

/-- The bytes behind a number may be cut off anywhere. -/
theorem decodeUnsigned_take_of_le {data : Bytes} {r : Reading Nat} {n : Nat}
    (h : decodeUnsigned data = .ok r) (hn : r.length ≤ n) :
    decodeUnsigned (data.take n) = .ok r := by
  have happend := decodeUnsigned_append ((data.drop r.length).take (n - r.length))
    (decodeUnsigned_take h)
  rwa [← List.take_add, Nat.add_sub_cancel' hn] at happend

/-- A number that is read before a cut is read without it. -/
theorem decodeUnsigned_of_take {data : Bytes} {r : Reading Nat} {n : Nat}
    (h : decodeUnsigned (data.take n) = .ok r) : decodeUnsigned data = .ok r := by
  have happend := decodeUnsigned_append (data.drop n) h
  rwa [List.take_append_drop] at happend

/-- No number is read from nothing. -/
theorem one_le_length_of_decodeUnsigned {data : Bytes} {r : Reading Nat}
    (h : decodeUnsigned data = .ok r) : 1 ≤ r.length :=
  (decodeUnsignedWithin_take h).1

/-- No number takes more bytes than there are. -/
theorem length_le_of_decodeUnsigned {data : Bytes} {r : Reading Nat}
    (h : decodeUnsigned data = .ok r) : r.length ≤ data.length :=
  (decodeUnsignedWithin_take h).2.1

/-- The byte string is read to its end, and gives the value.  Padded spellings count. -/
def Spells (digits : Bytes) (value : Nat) : Prop :=
  decodeUnsigned digits = .ok ⟨value, digits.length⟩

/-- To read a number is to find a spelling of it in front. -/
theorem decodeUnsigned_eq_ok_iff {data : Bytes} {r : Reading Nat} :
    decodeUnsigned data = .ok r ↔
      ∃ digits rest, data = digits ++ rest ∧ digits.length = r.length ∧
        Spells digits r.value := by
  constructor
  · intro h
    have hlen : (data.take r.length).length = r.length := by
      rw [List.length_take]
      exact Nat.min_eq_left (length_le_of_decodeUnsigned h)
    refine ⟨data.take r.length, data.drop r.length, (List.take_append_drop _ _).symm, hlen, ?_⟩
    rw [Spells, hlen]
    exact decodeUnsigned_take h
  · rintro ⟨digits, rest, rfl, hlen, h⟩
    rw [Spells, hlen] at h
    exact decodeUnsigned_append rest h

/-- A spelling has a byte. -/
theorem Spells.length_pos {digits : Bytes} {value : Nat} (h : Spells digits value) :
    1 ≤ digits.length :=
  one_le_length_of_decodeUnsigned h

/-- A spelling has ten bytes at most, padded or not. -/
theorem Spells.length_le {digits : Bytes} {value : Nat} (h : Spells digits value) :
    digits.length ≤ 10 :=
  decodeUnsignedWithin_length_le h

/-- Of two spellings at the front of the same bytes, neither is longer. -/
theorem Spells.unique {digits digits' rest rest' : Bytes} {value value' : Nat}
    (h : Spells digits value) (h' : Spells digits' value')
    (heq : digits ++ rest = digits' ++ rest') :
    digits = digits' ∧ value = value' ∧ rest = rest' := by
  have hread := decodeUnsigned_append rest h
  rw [heq, decodeUnsigned_append rest' h'] at hread
  -- both are what is read from the same bytes
  have hr : (⟨value', digits'.length⟩ : Reading Nat) = ⟨value, digits.length⟩ :=
    Except.ok.inj hread
  have hlen : digits'.length = digits.length := congrArg Reading.length hr
  obtain ⟨hdigits, hrest⟩ := List.append_inj heq hlen.symm
  exact ⟨hdigits, (congrArg Reading.value hr).symm, hrest⟩

/-! ## Round trip -/

/-- The high bit of a small natural is that of its byte. -/
theorem toUInt8_lt_128 {n : Nat} (hn : n < 256) : n.toUInt8 < 128 ↔ n < 128 := by
  rw [UInt8.lt_iff_toNat_lt, toNat_toUInt8 hn]
  rfl

/-- What is written is read again, with `room` groups above the last bit. -/
theorem decodeUnsignedWithin_encodeUnsigned : ∀ (room n : Nat), n < 2 * 128 ^ room →
    decodeUnsignedWithin room (encodeUnsigned n) = .ok ⟨n, (encodeUnsigned n).length⟩
  | 0, n, h => by
    -- no room above: only the last bit is left
    have hn : n < 2 := by simpa using h
    have hbyte : n.toUInt8 ≤ 1 := by
      rw [UInt8.le_iff_toNat_le, toNat_toUInt8 (by omega)]
      exact Nat.le_of_lt_succ hn
    rw [encodeUnsigned_of_lt (by omega), decodeUnsignedWithin, if_pos hbyte,
      toNat_toUInt8 (by omega)]
    rfl
  | room + 1, n, h => by
    by_cases hn : n < 128
    · rw [encodeUnsigned_of_lt hn, decodeUnsignedWithin,
        if_pos ((toUInt8_lt_128 (by omega)).mpr hn), toNat_toUInt8 (by omega)]
      rfl
    · -- what is left of the number needs one group of room less
      have hhigh : n / 128 < 2 * 128 ^ room := by
        rw [Nat.pow_succ] at h
        omega
      -- the byte has its high bit set, so the reading goes on behind it
      have hbyte : ¬ (n % 128 + 128).toUInt8 < 128 := by
        rw [toUInt8_lt_128 (by omega)]
        omega
      have hvalue : n % 128 + 128 - 128 + 128 * (n / 128) = n := by omega
      rw [encodeUnsigned_of_ge hn, decodeUnsignedWithin, if_neg hbyte,
        decodeUnsignedWithin_encodeUnsigned room (n / 128) hhigh, Except.map, Reading.below,
        toNat_toUInt8 (by omega), hvalue, List.length_cons]

/-- What is written for a number of 64 bits spells it. -/
theorem spells_encodeUnsigned {n : Nat} (h : n < 2 ^ 64) : Spells (encodeUnsigned n) n :=
  decodeUnsignedWithin_encodeUnsigned 9 n (by omega)

end WasmBinary.Leb128
