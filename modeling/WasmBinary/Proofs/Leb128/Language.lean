/-
  The language of unsigned numbers, and the number that each of its words stands for.

  A word of the language is a run of bytes above 127 with one byte below 128 behind it, ten bytes
  at most, and a tenth byte can only be 0 or 1.

  1. **Values** — `value` weighs the low seven bits of each byte by a power of 128.  It is the sum
     that the definition of the format gives (`value_take`).  It is also what is left in a 64-bit
     word when the groups are shifted into their places and joined bit by bit (`toNat_gather`):
     the groups do not overlap, and none of their bits is shifted out.

  2. **Outcomes** — reading has three of them.  A word of the language in front is read
     (`decodeUnsignedWithin_eq_ok_iff`); an input that ends before its word does and a word that
     leaves sixty-four bits are refused, each for its own reason.  The lemmas count the groups down
     (`room`), because the byte that may hold one bit only is the last one that there is room for.

  3. **At a position** — `readUnsigned_trichotomy` says the same for a position of a byte string,
     past its end included.
-/
import Mathlib.Algebra.BigOperators.Ring.Finset
import Mathlib.Tactic.Ring
import WasmBinary.Proofs.Leb128.Reading

namespace WasmBinary.Leb128

/-! ## Values -/

/-- The number that groups of seven bits stand for, the lowest group first. -/
def value : Bytes → Nat
  | [] => 0
  | b :: rest => b.toNat % 128 + 128 * value rest

/-- The value of the bytes in front, as a sum over their positions. -/
theorem value_take (data : Bytes) (n : Nat) :
    value (data.take n) = ∑ i ∈ Finset.range n, (data.getD i 0).toNat % 128 * 128 ^ i := by
  induction n generalizing data with
  | zero => simp [value]
  | succ n ih =>
    cases data with
    | nil => simp [value]
    | cons b rest =>
      rw [Finset.sum_range_succ', List.take_succ_cons, value, ih, Finset.mul_sum, Nat.add_comm]
      congr 1
      · refine Finset.sum_congr rfl fun i _ => ?_
        rw [List.getD_cons_succ, Nat.pow_succ]
        ring
      · simp

/-- A single group that is the last one stands for what its byte is. -/
theorem value_singleton {b : UInt8} (h : b < 128) : value [b] = b.toNat := by
  have hb : b.toNat < 128 := UInt8.lt_iff_toNat_lt.mp h
  rw [value, value, Nat.mod_eq_of_lt hb]
  rfl

/-- A group that says that more follow is read below them. -/
theorem below_value {b : UInt8} (h : 128 ≤ b) (digits : Bytes) (n : Nat) :
    Reading.below b ⟨value digits, n⟩ = ⟨value (b :: digits), n + 1⟩ := by
  have hb : 128 ≤ b.toNat := UInt8.le_iff_toNat_le.mp h
  have hlt : b.toNat < 256 := b.toNat_lt
  have hlow : b.toNat % 128 = b.toNat - 128 := by omega
  rw [Reading.below, value, hlow]

/-! ## Words -/

/-- The groups joined in a 64-bit word: the low seven bits of the next byte go `shift` bits up. -/
def gather (shift : Nat) (word : UInt64) : Bytes → UInt64
  | [] => word
  | b :: rest => gather (shift + 7) (word ||| ((b &&& 0x7F).toUInt64 <<< UInt64.ofNat shift)) rest

/-- A group that fits above the bits that are taken keeps all of its own, and meets none of
    theirs. -/
theorem toNat_or_shiftLeft {shift : Nat} {word group : UInt64} (hshift : shift < 64)
    (hword : word.toNat < 2 ^ shift) (hgroup : group.toNat * 2 ^ shift < 2 ^ 64) :
    (word ||| (group <<< UInt64.ofNat shift)).toNat = word.toNat + group.toNat * 2 ^ shift := by
  have hamount : (UInt64.ofNat shift).toNat % 64 = shift := by
    rw [UInt64.toNat_ofNat']
    omega
  rw [UInt64.toNat_or, UInt64.toNat_shiftLeft, hamount, Nat.shiftLeft_eq, Nat.mod_eq_of_lt hgroup,
    Nat.or_comm, Nat.mul_comm, ← Nat.two_pow_add_eq_or_of_lt hword, Nat.add_comm]

/-- Joining groups bit by bit adds their values up, as long as the sum stays in the word. -/
theorem toNat_gather {digits : Bytes} {shift : Nat} {word : UInt64}
    (hroom : shift + 7 * digits.length < 71) (hword : word.toNat < 2 ^ shift)
    (hfits : word.toNat + value digits * 2 ^ shift < 2 ^ 64) :
    (gather shift word digits).toNat = word.toNat + value digits * 2 ^ shift := by
  induction digits generalizing shift word with
  | nil => simp [gather, value]
  | cons b rest ih =>
    rw [List.length_cons] at hroom
    have hpow : 2 ^ (shift + 7) = 128 * 2 ^ shift := by
      rw [Nat.pow_add, Nat.mul_comm]
    have hvalue : value (b :: rest) * 2 ^ shift
        = b.toNat % 128 * 2 ^ shift + value rest * 2 ^ (shift + 7) := by
      rw [value, hpow]
      ring
    have hlow : b.toNat % 128 * 2 ^ shift ≤ 127 * 2 ^ shift :=
      Nat.mul_le_mul_right _ (Nat.le_of_lt_succ (Nat.mod_lt _ (by omega)))
    have hnext : (word ||| ((b &&& 0x7F).toUInt64 <<< UInt64.ofNat shift)).toNat
        = word.toNat + b.toNat % 128 * 2 ^ shift := by
      have hgroup : (b &&& 0x7F).toUInt64.toNat = b.toNat % 128 :=
        (UInt8.toNat_toUInt64 _).trans (Nat.and_two_pow_sub_one_eq_mod b.toNat 7)
      rw [toNat_or_shiftLeft (by omega) hword (by rw [hgroup]; omega), hgroup]
    rw [gather, ih (by omega) (by omega) (by omega), hnext]
    omega

/-! ## Outcomes -/

/-- A run of bytes that say that more follow, closed by one that does not, is read whatever is
    behind it. -/
theorem decodeUnsignedWithin_of_word {room : Nat} {more : Bytes} {last : UInt8} (rest : Bytes)
    (hmore : ∀ b ∈ more, 128 ≤ b) (hlast : last < 128) (hroom : more.length ≤ room)
    (hbit : more.length = room → last ≤ 1) :
    decodeUnsignedWithin room (more ++ last :: rest)
      = .ok ⟨value (more ++ [last]), more.length + 1⟩ := by
  induction more generalizing room with
  | nil =>
    rw [List.nil_append, List.nil_append, value_singleton hlast]
    cases room with
    | zero => rw [decodeUnsignedWithin, if_pos (hbit rfl), List.length_nil]
    | succ room => rw [decodeUnsignedWithin, if_pos hlast, List.length_nil]
  | cons b more ih =>
    obtain ⟨hb, hmore⟩ := List.forall_mem_cons.mp hmore
    cases room with
    | zero => exact absurd hroom (Nat.not_succ_le_zero _)
    | succ room =>
      have hrest := ih hmore (Nat.le_of_succ_le_succ hroom) fun h => hbit (congrArg (· + 1) h)
      rw [List.cons_append, decodeUnsignedWithin, if_neg (UInt8.not_lt.mpr hb), hrest, Except.map,
        below_value hb]
      rfl

/-- A number is read exactly where a word of the language is in front. -/
theorem decodeUnsignedWithin_eq_ok_iff {room : Nat} {data : Bytes} {r : Reading Nat} :
    decodeUnsignedWithin room data = .ok r ↔
      ∃ more last rest, data = more ++ last :: rest ∧ (∀ b ∈ more, 128 ≤ b) ∧ last < 128 ∧
        more.length ≤ room ∧ (more.length = room → last ≤ 1) ∧
        r = ⟨value (more ++ [last]), more.length + 1⟩ := by
  constructor
  · intro h
    fun_induction decodeUnsignedWithin room data generalizing r with
    | case1 => cases h
    | case2 b rest hb =>
      have hlast : b < 128 := UInt8.lt_of_le_of_lt hb (by decide)
      refine ⟨[], b, rest, rfl, List.forall_mem_nil _, hlast, Nat.le_refl 0, fun _ => hb, ?_⟩
      rw [List.nil_append, value_singleton hlast]
      exact (Except.ok.inj h).symm
    | case3 => cases h
    | case4 room b rest hb =>
      refine ⟨[], b, rest, rfl, List.forall_mem_nil _, hb, Nat.zero_le _,
        fun h => absurd h (Nat.succ_ne_zero room).symm, ?_⟩
      rw [List.nil_append, value_singleton hb]
      exact (Except.ok.inj h).symm
    | case5 room b rest hb ih =>
      obtain ⟨r', hr', rfl⟩ := map_eq_ok h
      obtain ⟨more, last, rest', rfl, hmore, hlast, hroom, hbit, rfl⟩ := ih hr'
      have hb : 128 ≤ b := UInt8.not_lt.mp hb
      exact ⟨b :: more, last, rest', rfl, List.forall_mem_cons.mpr ⟨hb, hmore⟩, hlast,
        Nat.succ_le_succ hroom, fun h => hbit (Nat.succ.inj h), below_value hb _ _⟩
  · rintro ⟨more, last, rest, rfl, hmore, hlast, hroom, hbit, rfl⟩
    exact decodeUnsignedWithin_of_word rest hmore hlast hroom hbit

/-- The input ends too early exactly where all of it says that more follow, and there is room for
    more. -/
theorem decodeUnsignedWithin_eq_unterminated_iff {room : Nat} {data : Bytes} :
    decodeUnsignedWithin room data = .error .unterminated ↔
      data.length ≤ room ∧ ∀ b ∈ data, 128 ≤ b := by
  fun_induction decodeUnsignedWithin room data with
  | case1 room => exact ⟨fun _ => ⟨Nat.zero_le room, List.forall_mem_nil _⟩, fun _ => rfl⟩
  | case2 b rest hb => simp
  | case3 b rest hb => simp
  | case4 room b rest hb => simp [UInt8.not_le.mpr hb]
  | case5 room b rest hb ih =>
    rw [map_eq_error, ih, List.length_cons, List.forall_mem_cons]
    have hb : 128 ≤ b := UInt8.not_lt.mp hb
    exact ⟨fun h => ⟨Nat.succ_le_succ h.1, hb, h.2⟩, fun h => ⟨Nat.le_of_succ_le_succ h.1, h.2.2⟩⟩

/-- The number is too large exactly where the group that there is just room for has more than its
    one bit. -/
theorem decodeUnsignedWithin_eq_overflow_iff {room : Nat} {data : Bytes} :
    decodeUnsignedWithin room data = .error .overflow ↔
      (∃ b, data[room]? = some b ∧ 1 < b) ∧ ∀ b ∈ data.take room, 128 ≤ b := by
  fun_induction decodeUnsignedWithin room data with
  | case1 room => simp
  | case2 b rest hb => simp [UInt8.not_lt.mpr hb]
  | case3 b rest hb => simp [UInt8.not_le.mp hb]
  | case4 room b rest hb => simp [UInt8.not_le.mpr hb]
  | case5 room b rest hb ih =>
    rw [map_eq_error, ih, List.getElem?_cons_succ, List.take_succ_cons, List.forall_mem_cons]
    have hb : 128 ≤ b := UInt8.not_lt.mp hb
    exact ⟨fun h => ⟨h.1, hb, h.2⟩, fun h => ⟨h.1, h.2.2⟩⟩

/-- A number of one bit above `room` groups is below the next bit. -/
theorem decodeUnsignedWithin_value_lt {room : Nat} {data : Bytes} {r : Reading Nat}
    (h : decodeUnsignedWithin room data = .ok r) : r.value < 2 * 128 ^ room := by
  fun_induction decodeUnsignedWithin room data generalizing r with
  | case1 => cases h
  | case2 b rest hb =>
    obtain rfl := Except.ok.inj h
    exact Nat.lt_succ_of_le (UInt8.le_iff_toNat_le.mp hb)
  | case3 => cases h
  | case4 room b rest hb =>
    obtain rfl := Except.ok.inj h
    have hb : b.toNat < 128 := UInt8.lt_iff_toNat_lt.mp hb
    have hpos : 0 < 128 ^ room := Nat.pow_pos (by omega)
    show b.toNat < 2 * 128 ^ (room + 1)
    rw [Nat.pow_succ]
    omega
  | case5 room b rest hb ih =>
    obtain ⟨r', hr', rfl⟩ := map_eq_ok h
    have hrest : r'.value < 2 * 128 ^ room := ih hr'
    have hb : b.toNat < 256 := b.toNat_lt
    show b.toNat - 128 + 128 * r'.value < 2 * 128 ^ (room + 1)
    rw [Nat.pow_succ]
    omega

/-- A word in front of the input by the positions of its bytes: the first `n - 1` say that more
    follow and the `n`-th does not.  `tenth` is what the last byte that there is room for may be. -/
theorem word_iff_take {α : Type} {tenth : UInt8 → Prop} {f : Bytes → UInt8 → α} {data : Bytes}
    {v : α} {n : Nat} :
    (∃ more last rest, data = more ++ last :: rest ∧ (∀ b ∈ more, 128 ≤ b) ∧ last < 128 ∧
        more.length ≤ 9 ∧ (more.length = 9 → tenth last) ∧
        (⟨v, n⟩ : Reading α) = ⟨f more last, more.length + 1⟩) ↔
      1 ≤ n ∧ n ≤ 10 ∧ n ≤ data.length ∧ (∀ b ∈ data.take (n - 1), 128 ≤ b) ∧
      ∃ last, data[n - 1]? = some last ∧ last < 128 ∧ (n = 10 → tenth last) ∧
        v = f (data.take (n - 1)) last := by
  constructor
  · rintro ⟨more, last, rest, rfl, hmore, hlast, hroom, htenth, hr⟩
    obtain ⟨rfl, rfl⟩ := Reading.mk.inj hr
    refine ⟨Nat.le_add_left 1 _, Nat.succ_le_succ hroom, ?_, ?_, last, ?_, hlast, ?_, ?_⟩
    · rw [List.length_append, List.length_cons]
      omega
    · rw [Nat.add_sub_cancel, List.take_left]
      exact hmore
    · rw [Nat.add_sub_cancel, List.getElem?_append_right (Nat.le_refl _), Nat.sub_self,
        List.getElem?_cons_zero]
    · intro h
      exact htenth (Nat.succ.inj h)
    · rw [Nat.add_sub_cancel, List.take_left]
  · rintro ⟨hpos, hten, hlen, hmore, last, hget, hlast, htenth, rfl⟩
    obtain ⟨k, rfl⟩ : ∃ k, n = k + 1 := ⟨n - 1, by omega⟩
    rw [Nat.add_sub_cancel] at hmore hget ⊢
    obtain ⟨hk, rfl⟩ := List.getElem?_eq_some_iff.mp hget
    have htake : (data.take k).length = k := List.length_take_of_le (Nat.le_of_lt hk)
    refine ⟨data.take k, data[k], data.drop (k + 1), ?_, hmore, hlast, ?_, ?_, ?_⟩
    · rw [← List.drop_eq_getElem_cons hk, List.take_append_drop]
    · omega
    · intro h
      exact htenth (by omega)
    · rw [htake]

/-- The last byte of a word behind the others. -/
theorem take_of_last {data : Bytes} {n : Nat} {last : UInt8} (hpos : 1 ≤ n)
    (hlast : data[n - 1]? = some last) : data.take (n - 1) ++ [last] = data.take n := by
  obtain ⟨k, rfl⟩ : ∃ k, n = k + 1 := ⟨n - 1, by omega⟩
  rw [Nat.add_sub_cancel] at hlast ⊢
  rw [List.take_add_one, hlast]
  rfl

/-- The words of the language by the positions of their bytes. -/
theorem decodeUnsigned_eq_ok_iff_take {data : Bytes} {v n : Nat} :
    decodeUnsigned data = .ok ⟨v, n⟩ ↔
      1 ≤ n ∧ n ≤ 10 ∧ n ≤ data.length ∧ (∀ b ∈ data.take (n - 1), 128 ≤ b) ∧
      (∃ last, data[n - 1]? = some last ∧ last < 128 ∧ (n = 10 → last ≤ 1)) ∧
      v = value (data.take n) := by
  rw [decodeUnsigned, decodeUnsignedWithin_eq_ok_iff,
    word_iff_take (f := fun more last => value (more ++ [last]))]
  constructor
  · rintro ⟨hpos, hten, hlen, hmore, last, hget, hlast, htenth, rfl⟩
    exact ⟨hpos, hten, hlen, hmore, ⟨last, hget, hlast, htenth⟩, by rw [take_of_last hpos hget]⟩
  · rintro ⟨hpos, hten, hlen, hmore, ⟨last, hget, hlast, htenth⟩, rfl⟩
    exact ⟨hpos, hten, hlen, hmore, last, hget, hlast, htenth, by rw [take_of_last hpos hget]⟩

/-! ## At a position -/

/-- **Reading an unsigned number has three outcomes, each on its own inputs.**  It succeeds exactly
    on the words of the language, with the sum of their groups; that sum is below 2^64 and is what
    a 64-bit word holds after the groups were joined in it.  It ends too early exactly where there
    are at most nine bytes and all of them say that more follow.  The number is too large exactly
    where nine bytes say so and the tenth is more than one bit. -/
theorem readUnsigned_trichotomy (data : Bytes) (pos : Nat) :
    (∀ v n, readUnsigned data pos = .ok ⟨v, n⟩ ↔
      1 ≤ n ∧ n ≤ 10 ∧ n ≤ (data.drop pos).length ∧
      (∀ b ∈ (data.drop pos).take (n - 1), 128 ≤ b) ∧
      (∃ last, (data.drop pos)[n - 1]? = some last ∧ last < 128 ∧ (n = 10 → last ≤ 1)) ∧
      v = ∑ i ∈ Finset.range n, ((data.drop pos).getD i 0).toNat % 128 * 128 ^ i) ∧
    (∀ v n, readUnsigned data pos = .ok ⟨v, n⟩ →
      v < 2 ^ 64 ∧ (gather 0 0 ((data.drop pos).take n)).toNat = v) ∧
    (readUnsigned data pos = .error (.number pos .unterminated) ↔
      (data.drop pos).length ≤ 9 ∧ ∀ b ∈ data.drop pos, 128 ≤ b) ∧
    (readUnsigned data pos = .error (.number pos .overflow) ↔
      (∃ tenth, (data.drop pos)[9]? = some tenth ∧ 1 < tenth) ∧
        ∀ b ∈ (data.drop pos).take 9, 128 ≤ b) ∧
    (∀ e, readUnsigned data pos = .error e →
      e = .number pos .unterminated ∨ e = .number pos .overflow) := by
  have hok : ∀ v n, readUnsigned data pos = .ok ⟨v, n⟩ ↔
      decodeUnsigned (data.drop pos) = .ok ⟨v, n⟩ := fun _ _ => mapError_eq_ok
  have herror : ∀ fault, readUnsigned data pos = .error (.number pos fault) ↔
      decodeUnsigned (data.drop pos) = .error fault := by
    intro fault
    rw [readUnsigned, mapError_eq_error]
    simp
  refine ⟨fun v n => ?_, fun v n h => ?_, ?_, ?_, fun e h => ?_⟩
  · rw [hok, decodeUnsigned_eq_ok_iff_take, value_take]
  · rw [hok] at h
    -- what is read has ten groups at most, and so it fits in the word that they are joined in
    have hlt : v < 2 * 128 ^ 9 := decodeUnsignedWithin_value_lt h
    obtain ⟨-, hten, -, -, -, rfl⟩ := decodeUnsigned_eq_ok_iff_take.mp h
    have hlen : ((data.drop pos).take n).length ≤ 10 := by
      rw [List.length_take]
      omega
    refine ⟨by omega, ?_⟩
    rw [toNat_gather (by omega) (by decide) (by simp only [UInt64.toNat_zero]; omega)]
    simp
  · rw [herror]
    exact decodeUnsignedWithin_eq_unterminated_iff
  · rw [herror]
    exact decodeUnsignedWithin_eq_overflow_iff
  · obtain ⟨fault, rfl, -⟩ := mapError_eq_error.mp h
    cases fault with
    | unterminated => exact Or.inl rfl
    | overflow => exact Or.inr rfl

example : readUnsigned (List.replicate 9 0xFF ++ [0x01, 0xFF]) 0 = .ok ⟨2 ^ 64 - 1, 10⟩ := by
  decide

example : readUnsigned (List.replicate 9 0xFF ++ [0x02]) 0 = .error (.number 0 .overflow) := by
  decide

end WasmBinary.Leb128
