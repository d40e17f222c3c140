/-
  The language of signed numbers, and the integer that each of its words stands for.

  The words are those of unsigned numbers, but for the tenth byte: it holds the sign of a 64-bit
  word and nothing else, so that its seven bits are all clear or all set.

  1. **Values** — `signedValue` is the number of the groups without a sign, less one unit of the
     weight above all groups if bit 6 of the last one is set.  The reader has it the other way
     round, with the sign in the last group and every further group below it (`signedValue_cons`).

  2. **Outcomes** — a number is read exactly where a word of the language is in front
     (`decodeSignedWithin_eq_ok_iff`), and it lies in the range of a 64-bit word
     (`decodeSignedWithin_value_mem`).

  3. **Bits** — `joinSigned` reads with nothing but the operations of a 64-bit word: groups are
     shifted into their places and joined, the tenth byte is tested by a shift of its own, and the
     sign is drawn out by ones above the last group.  A shift as wide as the word would have no
     outcome.  It never comes to that, on any bytes, and the answer is the one that is had with
     integers (`joinSigned_eq`): what is joined so far stays below the place of the next group,
     until the tenth group puts a single bit into the last place.
-/
import WasmBinary.Proofs.Leb128.Language

namespace WasmBinary.Leb128

/-! ## Bits of a byte -/

/-- Bytes are few enough to be looked at one by one. -/
theorem forall_byte {P : UInt8 → Prop} (h : ∀ n < 256, P (UInt8.ofNat n)) : ∀ b, P b := by
  intro b
  rw [← UInt8.ofNat_toNat (x := b)]
  exact h b.toNat b.toNat_lt

/-- Bit 6 of a byte says whether its group is in the upper half of what seven bits can hold. -/
theorem and_sign_eq_zero_iff : ∀ b : UInt8, b &&& 0x40 = 0 ↔ b.toNat % 128 < 64 :=
  forall_byte (by decide +kernel)

/-- Bit 7 says whether more follow. -/
theorem and_more_eq_zero_iff : ∀ b : UInt8, b &&& 0x80 = 0 ↔ b < 128 :=
  forall_byte (by decide +kernel)

/-! ## Values -/

/-- What a sign bit in the last group takes away, where `unit` is the weight above all groups. -/
def signOf (last : UInt8) (unit : Int) : Int :=
  if last &&& 0x40 = 0 then 0 else unit

/-- A sign moves up with the groups. -/
theorem mul_signOf (factor unit : Int) (last : UInt8) :
    factor * signOf last unit = signOf last (factor * unit) := by
  rw [signOf, signOf]
  split
  · exact Int.mul_zero factor
  · rfl

/-- The integer that groups stand for: those that say that more follow, and the last one. -/
def signedValue (more : Bytes) (last : UInt8) : Int :=
  value (more ++ [last]) - signOf last (128 ^ (more.length + 1))

/-- The last group is what its byte is, less a unit above it if it has the sign. -/
theorem signedGroup_eq {b : UInt8} (h : b < 128) : signedGroup b = b.toNat - signOf b 128 := by
  have hb : b.toNat < 128 := UInt8.lt_iff_toNat_lt.mp h
  have hsign : b &&& 0x40 = 0 ↔ b < 64 := by
    rw [and_sign_eq_zero_iff, Nat.mod_eq_of_lt hb, UInt8.lt_iff_toNat_lt]
    rfl
  rw [signedGroup, signOf]
  by_cases hs : b < 64
  · rw [if_pos hs, if_pos (hsign.mpr hs), Int.sub_zero]
  · rw [if_neg hs, if_neg fun h0 => hs (hsign.mp h0)]

/-- Alone, the last group is all of the number. -/
theorem signedValue_nil {last : UInt8} (h : last < 128) :
    signedValue [] last = signedGroup last := by
  rw [signedValue, List.nil_append, value_singleton h, signedGroup_eq h]
  rfl

/-- A group that says that more follow goes below them. -/
theorem signedValue_cons {b : UInt8} (h : 128 ≤ b) (more : Bytes) (last : UInt8) :
    signedValue (b :: more) last = b.toNat - 128 + 128 * signedValue more last := by
  have hb : 128 ≤ b.toNat := UInt8.le_iff_toNat_le.mp h
  have hlt : b.toNat < 256 := b.toNat_lt
  have hlow : b.toNat % 128 = b.toNat - 128 := by omega
  have hunit : (128 : Int) ^ ((b :: more).length + 1) = 128 * 128 ^ (more.length + 1) := by
    rw [List.length_cons, Int.pow_succ, Int.mul_comm]
  rw [signedValue, signedValue, hunit, ← mul_signOf, List.cons_append, value, hlow]
  omega

/-- What is read below other groups stands for those groups with one more in front. -/
theorem belowSigned_signedValue {b : UInt8} (h : 128 ≤ b) (more : Bytes) (last : UInt8) (n : Nat) :
    Reading.belowSigned b ⟨signedValue more last, n⟩ = ⟨signedValue (b :: more) last, n + 1⟩ := by
  rw [signedValue_cons h]
  rfl

/-! ## Outcomes -/

/-- A run of bytes that say that more follow, closed by one that does not, is read whatever is
    behind it. -/
theorem decodeSignedWithin_of_word {room : Nat} {more : Bytes} {last : UInt8} (rest : Bytes)
    (hmore : ∀ b ∈ more, 128 ≤ b) (hlast : last < 128) (hroom : more.length ≤ room)
    (hsign : more.length = room → last = 0x00 ∨ last = 0x7F) :
    decodeSignedWithin room (more ++ last :: rest)
      = .ok ⟨signedValue more last, more.length + 1⟩ := by
  induction more generalizing room with
  | nil =>
    rw [List.nil_append, signedValue_nil hlast]
    cases room with
    | zero => rw [decodeSignedWithin, if_pos (hsign rfl), List.length_nil]
    | succ room => rw [decodeSignedWithin, if_pos hlast, List.length_nil]
  | cons b more ih =>
    obtain ⟨hb, hmore⟩ := List.forall_mem_cons.mp hmore
    cases room with
    | zero => exact absurd hroom (Nat.not_succ_le_zero _)
    | succ room =>
      have hrest := ih hmore (Nat.le_of_succ_le_succ hroom) fun h => hsign (congrArg (· + 1) h)
      rw [List.cons_append, decodeSignedWithin, if_neg (UInt8.not_lt.mpr hb), hrest, Except.map,
        belowSigned_signedValue hb]
      rfl

/-- A signed number is read exactly where a word of the language is in front. -/
theorem decodeSignedWithin_eq_ok_iff {room : Nat} {data : Bytes} {r : Reading Int} :
    decodeSignedWithin room data = .ok r ↔
      ∃ more last rest, data = more ++ last :: rest ∧ (∀ b ∈ more, 128 ≤ b) ∧ last < 128 ∧
        more.length ≤ room ∧ (more.length = room → last = 0x00 ∨ last = 0x7F) ∧
        r = ⟨signedValue more last, more.length + 1⟩ := by
  constructor
  · intro h
    fun_induction decodeSignedWithin room data generalizing r with
    | case1 => cases h
    | case2 b rest hb =>
      have hlast : b < 128 := by
        obtain rfl | rfl := hb <;> decide
      refine ⟨[], b, rest, rfl, List.forall_mem_nil _, hlast, Nat.le_refl 0, fun _ => hb, ?_⟩
      rw [signedValue_nil hlast]
      exact (Except.ok.inj h).symm
    | case3 => cases h
    | case4 => cases h
    | case5 room b rest hb =>
      refine ⟨[], b, rest, rfl, List.forall_mem_nil _, hb, Nat.zero_le _,
        fun h => absurd h (Nat.succ_ne_zero room).symm, ?_⟩
      rw [signedValue_nil hb]
      exact (Except.ok.inj h).symm
    | case6 room b rest hb ih =>
      obtain ⟨r', hr', rfl⟩ := map_eq_ok h
      obtain ⟨more, last, rest', rfl, hmore, hlast, hroom, hsign, rfl⟩ := ih hr'
      have hb : 128 ≤ b := UInt8.not_lt.mp hb
      exact ⟨b :: more, last, rest', rfl, List.forall_mem_cons.mpr ⟨hb, hmore⟩, hlast,
        Nat.succ_le_succ hroom, fun h => hsign (Nat.succ.inj h), belowSigned_signedValue hb _ _ _⟩
  · rintro ⟨more, last, rest, rfl, hmore, hlast, hroom, hsign, rfl⟩
    exact decodeSignedWithin_of_word rest hmore hlast hroom hsign

/-- A sign above `room` groups: the value is as far below zero as above it. -/
theorem decodeSignedWithin_value_mem {room : Nat} {data : Bytes} {r : Reading Int}
    (h : decodeSignedWithin room data = .ok r) :
    -(128 ^ room) ≤ r.value ∧ r.value < 128 ^ room := by
  fun_induction decodeSignedWithin room data generalizing r with
  | case1 => cases h
  | case2 b rest hb =>
    obtain rfl := Except.ok.inj h
    obtain rfl | rfl := hb <;> decide
  | case3 => cases h
  | case4 => cases h
  | case5 room b rest hb =>
    obtain rfl := Except.ok.inj h
    have hb : b.toNat < 128 := UInt8.lt_iff_toNat_lt.mp hb
    have hpow : (128 : Int) ^ (room + 1) = 128 ^ room * 128 := Int.pow_succ ..
    have hpos : (0 : Int) < 128 ^ room := Int.pow_pos (by omega)
    show -(128 ^ (room + 1)) ≤ signedGroup b ∧ signedGroup b < 128 ^ (room + 1)
    rw [signedGroup]
    split <;> omega
  | case6 room b rest hb ih =>
    obtain ⟨r', hr', rfl⟩ := map_eq_ok h
    obtain ⟨hlow, hhigh⟩ := ih hr'
    have hb : 128 ≤ b.toNat := UInt8.le_iff_toNat_le.mp (UInt8.not_lt.mp hb)
    have hlt : b.toNat < 256 := b.toNat_lt
    have hpow : (128 : Int) ^ (room + 1) = 128 ^ room * 128 := Int.pow_succ ..
    show -(128 ^ (room + 1)) ≤ (b.toNat - 128 + 128 * r'.value : Int)
      ∧ (b.toNat - 128 + 128 * r'.value : Int) < 128 ^ (room + 1)
    omega

/-- The words of the language by the positions of their bytes. -/
theorem decodeSigned_eq_ok_iff_take {data : Bytes} {v : Int} {n : Nat} :
    decodeSigned data = .ok ⟨v, n⟩ ↔
      1 ≤ n ∧ n ≤ 10 ∧ n ≤ data.length ∧ (∀ b ∈ data.take (n - 1), 128 ≤ b) ∧
      ∃ last, data[n - 1]? = some last ∧ last < 128 ∧ (n = 10 → last = 0x00 ∨ last = 0x7F) ∧
        v = value (data.take n) - signOf last (128 ^ n) := by
  have hvalue : ∀ last, 1 ≤ n → n ≤ data.length → data[n - 1]? = some last →
      signedValue (data.take (n - 1)) last = value (data.take n) - signOf last (128 ^ n) := by
    intro last hpos hlen hget
    have hlength : (data.take (n - 1)).length + 1 = n := by
      rw [List.length_take_of_le (by omega)]
      omega
    rw [signedValue, take_of_last hpos hget, hlength]
  rw [decodeSigned, decodeSignedWithin_eq_ok_iff, word_iff_take (f := signedValue)]
  constructor
  · rintro ⟨hpos, hten, hlen, hmore, last, hget, hlast, htenth, rfl⟩
    exact ⟨hpos, hten, hlen, hmore, last, hget, hlast, htenth, hvalue last hpos hlen hget⟩
  · rintro ⟨hpos, hten, hlen, hmore, last, hget, hlast, htenth, rfl⟩
    exact ⟨hpos, hten, hlen, hmore, last, hget, hlast, htenth, (hvalue last hpos hlen hget).symm⟩

/-! ## Bits of a word -/

/-- A shift of a 64-bit word, which has no outcome when it is as wide as the word. -/
def shiftLeft? (word : UInt64) (amount : Nat) : Option UInt64 :=
  if amount < 64 then some (word <<< UInt64.ofNat amount) else none

/-- Whether the group of a byte can only be a sign: bit 7 is shifted out and the sign drawn in, and
    nothing is left of the group but copies of that sign. -/
def signOnly (b : UInt8) : Bool :=
  let bits := (b <<< 1).toInt8 >>> 1
  bits == 0 || bits == -1

/-- Draws out the sign of the last group: ones from bit `above` on, where there is room for them. -/
def extendSign? (word : UInt64) (above : Nat) (last : UInt8) : Option UInt64 :=
  if above < 64 ∧ last &&& 0x40 ≠ 0 then (shiftLeft? (-1) above).map (word ||| ·) else some word

/-- The signed number in front, joined bit by bit above the `groups` groups that are in `word`.
    There is no outcome if a shift is as wide as the word. -/
def joinSigned (groups : Nat) (word : UInt64) : Bytes → Option (Except Fault (Reading Int))
  | [] => some (.error .unterminated)
  | b :: rest =>
      if groups < 9 ∨ groups = 9 ∧ signOnly b then do
        let word := word ||| (← shiftLeft? (b &&& 0x7F).toUInt64 (7 * groups))
        if b &&& 0x80 = 0 then
          let word ← extendSign? word (7 * groups + 7) b
          return .ok ⟨word.toInt64.toInt, groups + 1⟩
        else joinSigned (groups + 1) word rest
      else some (.error .overflow)

/-- A shift that is narrower than the word has an outcome. -/
theorem shiftLeft?_of_lt {word : UInt64} {amount : Nat} (h : amount < 64) :
    shiftLeft? word amount = some (word <<< UInt64.ofNat amount) :=
  if_pos h

/-- Four of all bytes hold nothing but a sign: both signs, with and without the bit that says that
    more follow. -/
theorem signOnly_iff : ∀ b : UInt8, signOnly b ↔ b = 0x00 ∨ b = 0x7F ∨ b = 0x80 ∨ b = 0xFF :=
  forall_byte (by decide +kernel)

/-- A word below the middle is the integer that it counts. -/
theorem toInt_of_lt {word : UInt64} (h : word.toNat < 2 ^ 63) :
    word.toInt64.toInt = word.toNat := by
  have hsmall : 2 * word.toBitVec.toNat < 2 ^ 64 := by
    show 2 * word.toNat < 2 ^ 64
    omega
  rw [← Int64.toInt_toBitVec, UInt64.toBitVec_toInt64, BitVec.toInt_eq_toNat_cond, if_pos hsmall]
  rfl

/-- A word from the middle on is that integer less 2^64. -/
theorem toInt_of_ge {word : UInt64} (h : 2 ^ 63 ≤ word.toNat) :
    word.toInt64.toInt = word.toNat - 2 ^ 64 := by
  have hlarge : ¬ 2 * word.toBitVec.toNat < 2 ^ 64 := by
    show ¬ 2 * word.toNat < 2 ^ 64
    omega
  rw [← Int64.toInt_toBitVec, UInt64.toBitVec_toInt64, BitVec.toInt_eq_toNat_cond, if_neg hlarge]
  rfl

/-- Ones above a word that leaves room for them make it negative, by the weight of the lowest of
    them. -/
theorem toInt_or_ones {word : UInt64} {amount : Nat} (hamount : amount < 64)
    (hword : word.toNat < 2 ^ amount) :
    (word ||| ((-1) <<< UInt64.ofNat amount)).toInt64.toInt = word.toNat - 2 ^ amount := by
  have hmod : (UInt64.ofNat amount).toNat % 64 = amount := by
    rw [UInt64.toNat_ofNat']
    omega
  have hsplit : 2 ^ amount * 2 ^ (64 - amount) = 2 ^ 64 := by
    rw [← Nat.pow_add]
    congr 1
    omega
  have hpos : 1 ≤ 2 ^ amount := Nat.one_le_two_pow
  have hle : 2 ^ amount ≤ 2 ^ 63 := Nat.pow_le_pow_right (by omega) (by omega)
  -- all bits from `amount` on are set, and none below it
  have hones : ((-1 : UInt64) <<< UInt64.ofNat amount).toNat
      = 2 ^ amount * (2 ^ (64 - amount) - 1) := by
    have hall : (-1 : UInt64).toNat = 2 ^ 64 - 1 := rfl
    rw [UInt64.toNat_shiftLeft, hmod, Nat.shiftLeft_eq, hall, Nat.mul_sub, hsplit]
    omega
  have hor : (word ||| ((-1) <<< UInt64.ofNat amount)).toNat
      = 2 ^ 64 - 2 ^ amount + word.toNat := by
    rw [UInt64.toNat_or, hones, Nat.or_comm, ← Nat.two_pow_add_eq_or_of_lt hword, Nat.mul_sub,
      hsplit, Nat.mul_one]
  have hcast : ((2 ^ amount : Nat) : Int) = 2 ^ amount := Nat.cast_pow 2 amount
  rw [toInt_of_ge (by omega), hor]
  omega

/-- The sign that is drawn out takes its unit away. -/
theorem extendSign?_eq {word : UInt64} {above : Nat} (last : UInt8) (habove : above < 64)
    (hword : word.toNat < 2 ^ above) :
    ∃ result, extendSign? word above last = some result ∧
      result.toInt64.toInt = word.toNat - signOf last (2 ^ above) := by
  rw [extendSign?, signOf]
  by_cases hsign : last &&& 0x40 = 0
  · have hle : 2 ^ above ≤ 2 ^ 63 := Nat.pow_le_pow_right (by omega) (by omega)
    rw [if_neg fun h => h.2 hsign, if_pos hsign, Int.sub_zero]
    exact ⟨word, rfl, toInt_of_lt (by omega)⟩
  · rw [if_pos ⟨habove, hsign⟩, if_neg hsign, shiftLeft?_of_lt habove]
    exact ⟨_, rfl, toInt_or_ones habove hword⟩

/-- A group goes above those that are joined, as long as the tenth byte is not reached. -/
theorem toNat_or_group {groups : Nat} {word : UInt64} (b : UInt8) (hgroups : groups < 9)
    (hword : word.toNat < 2 ^ (7 * groups)) :
    (word ||| ((b &&& 0x7F).toUInt64 <<< UInt64.ofNat (7 * groups))).toNat
        = word.toNat + b.toNat % 128 * 2 ^ (7 * groups) ∧
      word.toNat + b.toNat % 128 * 2 ^ (7 * groups) < 2 ^ (7 * groups + 7) := by
  have hgroup : (b &&& 0x7F).toUInt64.toNat = b.toNat % 128 :=
    (UInt8.toNat_toUInt64 _).trans (Nat.and_two_pow_sub_one_eq_mod b.toNat 7)
  have hpow : 2 ^ (7 * groups + 7) = 2 ^ (7 * groups) * 128 := Nat.pow_add ..
  have hle : 2 ^ (7 * groups) ≤ 2 ^ 56 := Nat.pow_le_pow_right (by omega) (by omega)
  have hlow : b.toNat % 128 * 2 ^ (7 * groups) ≤ 127 * 2 ^ (7 * groups) :=
    Nat.mul_le_mul_right _ (Nat.le_of_lt_succ (Nat.mod_lt _ (by omega)))
  constructor
  · rw [toNat_or_shiftLeft (by omega) hword (by rw [hgroup]; omega), hgroup]
  · omega

/-- A reading of the groups above those that are joined. -/
def Reading.above (groups : Nat) (word : UInt64) (r : Reading Int) : Reading Int :=
  ⟨word.toNat + 2 ^ (7 * groups) * r.value, groups + r.length⟩

/-- A group that is joined is a group that is read below the others. -/
theorem Reading.above_succ {groups : Nat} {word next : UInt64} {b : UInt8} (hb : 128 ≤ b)
    (hnext : next.toNat = word.toNat + b.toNat % 128 * 2 ^ (7 * groups)) (r : Reading Int) :
    Reading.above (groups + 1) next r = Reading.above groups word (Reading.belowSigned b r) := by
  have hb : 128 ≤ b.toNat := UInt8.le_iff_toNat_le.mp hb
  have hlt : b.toNat < 256 := b.toNat_lt
  have hlow : ((b.toNat % 128 : Nat) : Int) = b.toNat - 128 := by omega
  have hpow : (2 : Int) ^ (7 * (groups + 1)) = 2 ^ (7 * groups) * 128 := Int.pow_add ..
  have hvalue : (next.toNat + 2 ^ (7 * (groups + 1)) * r.value : Int)
      = word.toNat + 2 ^ (7 * groups) * (b.toNat - 128 + 128 * r.value) := by
    rw [hnext, Nat.cast_add, Nat.cast_mul, Nat.cast_pow, hlow, hpow]
    push_cast
    ring
  have hlength : groups + 1 + r.length = groups + (r.length + 1) := by omega
  rw [Reading.above, hvalue, hlength]
  rfl

/-- The tenth byte puts its lowest bit into the last place, and the other six are shifted out. -/
theorem joinSigned_tenth {word : UInt64} (b : UInt8) (rest : Bytes) (hword : word.toNat < 2 ^ 63) :
    joinSigned 9 word (b :: rest)
      = some ((decodeSignedWithin 0 (b :: rest)).map (Reading.above 9 word)) := by
  rw [joinSigned, decodeSignedWithin]
  by_cases hsign : signOnly b
  · rw [if_pos (.inr ⟨rfl, hsign⟩)]
    obtain rfl | rfl | rfl | rfl := (signOnly_iff b).mp hsign
    · show some (Except.ok (⟨(word ||| 0).toInt64.toInt, 10⟩ : Reading Int)) = _
      rw [UInt64.or_zero, toInt_of_lt hword]
      simp [Except.map, Reading.above, signedGroup]
    · show some (Except.ok
        (⟨(word ||| ((-1) <<< UInt64.ofNat 63)).toInt64.toInt, 10⟩ : Reading Int)) = _
      rw [toInt_or_ones (by omega) hword]
      simp [Except.map, Reading.above, signedGroup, Int.sub_eq_add_neg]
    -- a sign that asks for an eleventh byte fails at that byte, or for want of it
    · show joinSigned 10 (word ||| 0) rest = _
      cases rest <;> rfl
    · show joinSigned 10 (word ||| ((-1) <<< UInt64.ofNat 63)) rest = _
      cases rest <;> rfl
  · have hbyte := (signOnly_iff b).not.mp hsign
    simp only [not_or] at hbyte
    obtain ⟨h0, h127, h128, h255⟩ := hbyte
    rw [if_neg (by simp [hsign]), if_neg (by simp [h0, h127]), if_neg (by simp [h128, h255])]
    rfl

/-- Reading in a word is reading of integers, whatever has been joined so far. -/
theorem joinSigned_eq {groups room : Nat} {word : UInt64} {data : Bytes}
    (hgroups : groups + room = 9) (hword : word.toNat < 2 ^ (7 * groups)) :
    joinSigned groups word data
      = some ((decodeSignedWithin room data).map (Reading.above groups word)) := by
  induction data generalizing groups room word with
  | nil => cases room <;> rfl
  | cons b rest ih =>
    -- the tenth byte has a lemma of its own, as most of it is shifted out
    cases room with
    | zero =>
      obtain rfl : groups = 9 := hgroups
      exact joinSigned_tenth b rest hword
    | succ room =>
      -- nine groups at most are joined, so that every shift is narrower than the word
      have hcast : ((2 ^ (7 * groups) : Nat) : Int) = 2 ^ (7 * groups) := Nat.cast_pow 2 _
      obtain ⟨hnext, hfits⟩ := toNat_or_group b (by omega) hword
      rw [joinSigned, if_pos (.inl (by omega)), shiftLeft?_of_lt (by omega), decodeSignedWithin]
      by_cases hlast : b < 128
      · have hb : b.toNat < 128 := UInt8.lt_iff_toNat_lt.mp hlast
        obtain ⟨result, hresult, htoInt⟩ := extendSign?_eq b (by omega) (hnext ▸ hfits)
        -- the last group: what is drawn out above it is the sign that it has as a number
        have hvalue : result.toInt64.toInt = word.toNat + 2 ^ (7 * groups) * signedGroup b := by
          rw [htoInt, hnext, Nat.mod_eq_of_lt hb, signedGroup_eq hlast, Int.mul_sub, mul_signOf,
            Int.pow_add, Nat.cast_add, Nat.cast_mul, hcast, Int.mul_comm (b.toNat : Int)]
          exact Int.add_sub_assoc ..
        show (if b &&& 0x80 = 0 then _ else _) = _
        rw [if_pos ((and_more_eq_zero_iff b).mpr hlast), if_pos hlast, hresult]
        show some (Except.ok (⟨result.toInt64.toInt, groups + 1⟩ : Reading Int)) = _
        rw [hvalue]
        rfl
      · -- any other group: the rest is joined above it
        have hrest : groups + 1 + room = 9 := by omega
        show (if b &&& 0x80 = 0 then _ else _) = _
        rw [if_neg fun h => hlast ((and_more_eq_zero_iff b).mp h), if_neg hlast,
          ih hrest (hnext ▸ hfits)]
        cases decodeSignedWithin room rest with
        | error fault => rfl
        | ok r =>
          exact congrArg (some ∘ Except.ok) (Reading.above_succ (UInt8.not_lt.mp hlast) hnext r)

/-- From an empty word on, the reading in a word is the reading itself. -/
theorem joinSigned_empty (data : Bytes) : joinSigned 0 0 data = some (decodeSigned data) := by
  have hempty : (0 : UInt64).toNat < 2 ^ (7 * 0) := by decide
  rw [joinSigned_eq (Nat.zero_add 9) hempty, decodeSigned]
  cases decodeSignedWithin 9 data with
  | error fault => rfl
  | ok r => simp [Except.map, Reading.above]

/-! ## At a position -/

/-- **What is read as a signed number, and as which one.**  Reading succeeds exactly on the words of
    the language, with the sum of their groups less one unit above all of them where bit 6 of the
    last byte is set; the value is in the range of a 64-bit word.  Otherwise it fails, and tells the
    position.  The same answers come from shifts and joins of a 64-bit word, on all bytes, and no
    shift is as wide as the word. -/
theorem readSigned_language (data : Bytes) (pos : Nat) :
    (∀ v n, readSigned data pos = .ok ⟨v, n⟩ ↔
      1 ≤ n ∧ n ≤ 10 ∧ n ≤ (data.drop pos).length ∧
      (∀ b ∈ (data.drop pos).take (n - 1), 128 ≤ b) ∧
      ∃ last, (data.drop pos)[n - 1]? = some last ∧ last < 128 ∧
        (n = 10 → last = 0x00 ∨ last = 0x7F) ∧
        v = (∑ i ∈ Finset.range n, ((data.drop pos).getD i 0).toNat % 128 * 128 ^ i : Nat)
          - if last &&& 0x40 = 0 then 0 else 128 ^ n) ∧
    (∀ v n, readSigned data pos = .ok ⟨v, n⟩ → -2 ^ 63 ≤ v ∧ v < 2 ^ 63) ∧
    ((∃ r, readSigned data pos = .ok r) ∨
      readSigned data pos = .error (.number pos .unterminated) ∨
      readSigned data pos = .error (.number pos .overflow)) ∧
    (joinSigned 0 0 (data.drop pos)).map (Except.mapError (Error.number pos))
      = some (readSigned data pos) := by
  have hok : ∀ v n, readSigned data pos = .ok ⟨v, n⟩ ↔
      decodeSigned (data.drop pos) = .ok ⟨v, n⟩ := fun _ _ => mapError_eq_ok
  refine ⟨fun v n => ?_, fun v n h => ?_, ?_, ?_⟩
  · rw [hok, decodeSigned_eq_ok_iff_take, value_take]
    rfl
  · exact decodeSignedWithin_value_mem ((hok v n).mp h)
  · cases hread : readSigned data pos with
    | ok r => exact .inl ⟨r, rfl⟩
    | error e =>
      obtain ⟨fault, rfl, -⟩ := mapError_eq_error.mp hread
      cases fault with
      | unterminated => exact .inr (.inl rfl)
      | overflow => exact .inr (.inr rfl)
  · rw [joinSigned_empty]
    rfl

/-- A word of ten bytes, and the same word with a sign that is not the one of a 64-bit word. -/
example : readSigned (List.replicate 9 0x80 ++ [0x7F]) 0 = .ok ⟨-2 ^ 63, 10⟩ := by
  decide

example : readSigned (List.replicate 9 0x80 ++ [0x41]) 0 = .error (.number 0 .overflow) := by
  decide

end WasmBinary.Leb128
