/-
  What is written is read again wherever it stands, and nothing less than all of it is read.

  1. **Signed numbers** — a reading stays the same when bytes are appended
     (`decodeSignedWithin_append`), and it gives back what was written.  The bound in the induction
     is `-(128 ^ room) ≤ v < 128 ^ room`: with no room above, only the two signs are left, and every
     further group multiplies the bound by 128.  Nine of them are the 63 bits below the sign of a
     64-bit word.

  2. **Numbers that are cut off** — in both encodings every byte but the last says that more follow
     (`Grouped.more_of_cut`), and neither reader gives a number, or gives up for another reason,
     before it has seen a byte that does not.
-/
import WasmBinary.Proofs.Leb128.Language

namespace WasmBinary.Leb128

/-! ## Signed numbers -/

/-- Reading stops at the last byte of a signed number, so that bytes behind it change nothing. -/
theorem decodeSignedWithin_append {room : Nat} {data : Bytes} {r : Reading Int} (rest : Bytes)
    (h : decodeSignedWithin room data = .ok r) :
    decodeSignedWithin room (data ++ rest) = .ok r := by
  fun_induction decodeSignedWithin room data generalizing r with
  | case1 => nomatch h
  | case2 b tail hb => simpa [decodeSignedWithin, hb] using h
  | case3 => nomatch h
  | case4 => nomatch h
  | case5 room b tail hb => simpa [decodeSignedWithin, hb] using h
  | case6 room b tail hb ih =>
    obtain ⟨r', hr', rfl⟩ := map_eq_ok h
    rw [List.cons_append, decodeSignedWithin, if_neg hb, ih hr']
    rfl

/-- A reading has no more groups than there is room for. -/
theorem decodeSignedWithin_length_le {room : Nat} {data : Bytes} {r : Reading Int}
    (h : decodeSignedWithin room data = .ok r) : r.length ≤ room + 1 := by
  fun_induction decodeSignedWithin room data generalizing r with
  | case1 => nomatch h
  | case2 b tail hb =>
    obtain rfl := Except.ok.inj h
    exact Nat.le_refl 1
  | case3 => nomatch h
  | case4 => nomatch h
  | case5 room b tail hb =>
    obtain rfl := Except.ok.inj h
    exact Nat.le_add_left 1 (room + 1)
  | case6 room b tail hb ih =>
    obtain ⟨r', hr', rfl⟩ := map_eq_ok h
    exact Nat.succ_le_succ (ih hr')

/-- The group that ends a signed number gives the number back, the sign from its bit 6. -/
theorem signedGroup_of_small {v : Int} (h : -64 ≤ v ∧ v < 64) :
    signedGroup (v % 128).toNat.toUInt8 = v := by
  have hbyte : (v % 128).toNat.toUInt8.toNat = (v % 128).toNat := toNat_toUInt8 (by omega)
  have hlt : (v % 128).toNat.toUInt8 < 64 ↔ (v % 128).toNat < 64 := by
    rw [UInt8.lt_iff_toNat_lt, hbyte]
    rfl
  by_cases hv : 0 ≤ v
  · rw [signedGroup, if_pos (hlt.mpr (by omega)), hbyte]
    omega
  · rw [signedGroup, if_neg (fun hb => absurd (hlt.mp hb) (by omega)), hbyte]
    omega

/-- What is written is read again, with `room` groups above the sign. -/
theorem decodeSignedWithin_encodeSigned : ∀ (room : Nat) (v : Int),
    -(128 ^ room) ≤ v → v < 128 ^ room →
    decodeSignedWithin room (encodeSigned v) = .ok ⟨v, (encodeSigned v).length⟩
  | 0, v, hlow, hhigh => by
    -- no room above: only the sign is left
    obtain rfl | rfl : v = 0 ∨ v = -1 := by
      rw [Int.pow_zero] at hlow hhigh
      omega
    · rw [encodeSigned_of_small (by omega)]
      rfl
    · rw [encodeSigned_of_small (by omega)]
      rfl
  | room + 1, v, hlow, hhigh => by
    by_cases hv : -64 ≤ v ∧ v < 64
    · have hbyte : (v % 128).toNat.toUInt8 < 128 := (toUInt8_lt_128 (by omega)).mpr (by omega)
      rw [encodeSigned_of_small hv, decodeSignedWithin, if_pos hbyte, signedGroup_of_small hv]
      rfl
    · have hpow : (128 : Int) ^ (room + 1) = 128 ^ room * 128 := Int.pow_succ ..
      -- the byte has its high bit set, so the reading goes on behind it
      have hbyte : ¬ ((v % 128).toNat + 128).toUInt8 < 128 := by
        rw [toUInt8_lt_128 (by omega)]
        omega
      have hvalue : (((v % 128).toNat + 128 : Nat) : Int) - 128 + 128 * (v / 128) = v := by omega
      rw [encodeSigned_of_large hv, decodeSignedWithin, if_neg hbyte,
        decodeSignedWithin_encodeSigned room (v / 128) (by omega) (by omega), Except.map,
        Reading.belowSigned, toNat_toUInt8 (by omega), hvalue, List.length_cons]

/-! ## Numbers that are cut off -/

/-- What is cut off is shorter. -/
theorem length_lt_of_cut {cut whole : Bytes} (hcut : cut <+: whole) (hne : cut ≠ whole) :
    cut.length < whole.length :=
  Nat.lt_of_le_of_ne hcut.length_le fun h => hne (hcut.eq_of_length h)

/-- Every byte but the last one of a number says that more follow. -/
theorem Grouped.more_of_cut {α : Type} {enc : α → Bytes} {last : α → Prop} {low : α → Nat}
    {high : α → α} (henc : Grouped enc last low high) {cut : Bytes} {x : α}
    (hcut : cut <+: enc x) (hne : cut ≠ enc x) : ∀ b ∈ cut, 128 ≤ b := by
  induction cut generalizing x with
  | nil => exact List.forall_mem_nil _
  | cons b cut ih =>
    by_cases hx : last x
    · -- one byte has no shorter beginning than none
      rw [henc.of_last x hx] at hcut hne
      obtain ⟨rfl, hnil⟩ := List.cons_prefix_cons.mp hcut
      exact absurd (List.prefix_nil.mp hnil ▸ rfl) hne
    · rw [henc.of_more x hx] at hcut hne
      obtain ⟨rfl, htail⟩ := List.cons_prefix_cons.mp hcut
      have hlow := henc.low_lt x
      have hb : 128 ≤ (low x + 128).toUInt8 := by
        rw [UInt8.le_iff_toNat_le, toNat_toUInt8 (by omega)]
        exact Nat.le_add_left _ _
      exact List.forall_mem_cons.mpr ⟨hb, ih htail fun h => hne (congrArg _ h)⟩

/-- The input ends too early where all of it says that more follow, and there is room for more, or
    there is just no room left and the last byte holds a sign. -/
theorem decodeSignedWithin_eq_unterminated_iff {room : Nat} {data : Bytes} :
    decodeSignedWithin room data = .error .unterminated ↔
      data.length ≤ room ∧ (∀ b ∈ data, 128 ≤ b) ∨
      data.length = room + 1 ∧ (∀ b ∈ data, 128 ≤ b) ∧
        (data[room]? = some 0x80 ∨ data[room]? = some 0xFF) := by
  fun_induction decodeSignedWithin room data with
  | case1 room => exact ⟨fun _ => .inl ⟨Nat.zero_le room, List.forall_mem_nil _⟩, fun _ => rfl⟩
  | case2 b rest hb =>
    -- a byte below 128 ends the number
    have hlast : ¬ 128 ≤ b := by
      obtain rfl | rfl := hb <;> decide
    simp [hlast]
  | case3 b rest hb hsign =>
    obtain ⟨hsign, rfl⟩ := hsign
    have hmore : 128 ≤ b := by
      obtain rfl | rfl := hsign <;> decide
    simp [hmore, hsign]
  | case4 b rest hb hsign =>
    simp only [List.length_cons, List.getElem?_cons_zero, Option.some.injEq]
    constructor
    · intro h
      nomatch h
    · rintro (⟨hlen, -⟩ | ⟨hlen, -, hbyte⟩)
      · omega
      · exact absurd ⟨hbyte, List.length_eq_zero_iff.mp (by omega)⟩ hsign
  | case5 room b rest hb => simp [UInt8.not_le.mpr hb]
  | case6 room b rest hb ih =>
    have hb : 128 ≤ b := UInt8.not_lt.mp hb
    rw [map_eq_error, ih]
    simp [hb]

/-- Where every byte says that more follow, and there is room for more, the input ended too
    early. -/
theorem decodeSignedWithin_eq_unterminated {room : Nat} {data : Bytes}
    (hlen : data.length ≤ room) (hmore : ∀ b ∈ data, 128 ≤ b) :
    decodeSignedWithin room data = .error .unterminated :=
  decodeSignedWithin_eq_unterminated_iff.mpr (.inl ⟨hlen, hmore⟩)

/-- A number of which the last byte is cut off, or more than that, ends too early, however it was
    spelled. -/
theorem decodeUnsigned_take_of_lt {data : Bytes} {r : Reading Nat} {n : Nat}
    (h : decodeUnsigned data = .ok r) (hn : n < r.length) :
    decodeUnsigned (data.take n) = .error .unterminated := by
  obtain ⟨v, length⟩ := r
  obtain ⟨-, hten, -, hmore, -, -⟩ := decodeUnsigned_eq_ok_iff_take.mp h
  have hn : n < length := hn
  refine decodeUnsignedWithin_eq_unterminated_iff.mpr ⟨?_, fun b hb => hmore b ?_⟩
  · rw [List.length_take]
    omega
  · exact List.take_subset_take_left data (by omega) hb

/-! ## At a position -/

/-- **Numbers are read back in any surroundings.**  A word that was written is read at its place,
    signed or not, whatever bytes stand before and behind it; and where the input ends inside its
    bytes, or right in front of them, reading fails for want of more. -/
theorem read_encode_anywhere (v : UInt64) (w : Int64) (before after : Bytes) :
    readUnsigned (before ++ encodeUnsigned v.toNat ++ after) before.length
      = .ok ⟨v.toNat, (encodeUnsigned v.toNat).length⟩ ∧
    readSigned (before ++ encodeSigned w.toInt ++ after) before.length
      = .ok ⟨w.toInt, (encodeSigned w.toInt).length⟩ ∧
    (∀ cut, cut <+: encodeUnsigned v.toNat → cut ≠ encodeUnsigned v.toNat →
      readUnsigned (before ++ cut) before.length
        = .error (.number before.length .unterminated)) ∧
    (∀ cut, cut <+: encodeSigned w.toInt → cut ≠ encodeSigned w.toInt →
      readSigned (before ++ cut) before.length
        = .error (.number before.length .unterminated)) := by
  have hv : Spells (encodeUnsigned v.toNat) v.toNat := spells_encodeUnsigned v.toNat_lt
  have hw : decodeSigned (encodeSigned w.toInt) = .ok ⟨w.toInt, (encodeSigned w.toInt).length⟩ :=
    decodeSignedWithin_encodeSigned 9 w.toInt w.le_toInt w.toInt_lt
  refine ⟨?_, ?_, fun cut hcut hne => ?_, fun cut hcut hne => ?_⟩
  · rw [readUnsigned, mapError_eq_ok, List.append_assoc, List.drop_left]
    exact decodeUnsigned_append after hv
  · rw [readSigned, mapError_eq_ok, List.append_assoc, List.drop_left]
    exact decodeSignedWithin_append after hw
  · have hlen : cut.length ≤ 9 := by
      have := length_lt_of_cut hcut hne
      have := hv.length_le
      omega
    rw [readUnsigned, List.drop_left, mapError_eq_error]
    exact ⟨_, rfl, decodeUnsignedWithin_eq_unterminated_iff.mpr
      ⟨hlen, encodeUnsigned_grouped.more_of_cut hcut hne⟩⟩
  · have hlen : cut.length ≤ 9 := by
      have := length_lt_of_cut hcut hne
      have : (encodeSigned w.toInt).length ≤ 10 := decodeSignedWithin_length_le hw
      omega
    rw [readSigned, List.drop_left, mapError_eq_error]
    exact ⟨_, rfl, decodeSignedWithin_eq_unterminated hlen
      (encodeSigned_grouped.more_of_cut hcut hne)⟩

end WasmBinary.Leb128
