/-
  What more input could do for a number that was refused.

  A refusal tells the caller what to do next.  An input that ended too early should be one that some
  further bytes turn into a number, and an input that overflowed should be one that no further bytes
  can help.

  1. **Readers of words** — both readers look for a word in front: bytes that say that more follow,
     nine of them at most, and one that does not.  They differ in what the tenth byte may be and in
     what number a word stands for (`WordReader`).  For every such reader an input can be completed
     exactly if it is nine bytes at most and all of them say that more follow (`completable_iff`),
     and it is hopeless exactly if it neither holds a number nor can be completed (`hopeless_iff`).

  2. **Signed numbers** — the signed reader tests the tenth byte for a sign before it asks whether
     more follow.  A tenth byte that is a sign and says that more follow passes the test, and an
     input that ends there ends too early, although no byte behind it can help (`Stalled`).

  3. **At a position** — the refusals of the unsigned reader are exact.  Those of the signed one are
     exact but for the stalled inputs, which it reports as cut off; one byte more, and it reports
     that they overflow (`readSigned_refusals`).
-/
import WasmBinary.Proofs.Leb128.RoundTrip
import WasmBinary.Proofs.Leb128.Signed

namespace WasmBinary.Leb128

/-! ## Readers of words -/

section Words

variable {α : Type} {decode : Bytes → Except Fault (Reading α)} {tenth : UInt8 → Prop}
  {f : Bytes → UInt8 → α} {data : Bytes}

/-- Readers that give a number exactly where a word is in front.  `tenth` is what the last byte that
    there is room for may be, and `f` is what a word stands for. -/
structure WordReader (decode : Bytes → Except Fault (Reading α)) (tenth : UInt8 → Prop)
    (f : Bytes → UInt8 → α) : Prop where
  tenth_zero : tenth 0x00
  eq_ok_iff : ∀ data r, decode data = .ok r ↔
    ∃ more last rest, data = more ++ last :: rest ∧ (∀ b ∈ more, 128 ≤ b) ∧ last < 128 ∧
      more.length ≤ 9 ∧ (more.length = 9 → tenth last) ∧ r = ⟨f more last, more.length + 1⟩

/-- The unsigned reader is one of words, whose tenth byte is a single bit. -/
theorem decodeUnsigned_wordReader :
    WordReader decodeUnsigned (· ≤ 1) (fun more last => value (more ++ [last])) where
  tenth_zero := by decide
  eq_ok_iff _ _ := decodeUnsignedWithin_eq_ok_iff

/-- So is the signed reader, whose tenth byte is a bit with its sign. -/
theorem decodeSigned_wordReader :
    WordReader decodeSigned (fun b => b = 0x00 ∨ b = 0x7F) signedValue where
  tenth_zero := .inl rfl
  eq_ok_iff _ _ := decodeSignedWithin_eq_ok_iff

/-- The reader reads all of the bytes as one number. -/
def Accepted (decode : Bytes → Except Fault (Reading α)) (word : Bytes) : Prop :=
  ∃ v, decode word = .ok ⟨v, word.length⟩

/-- Some bytes behind the input would make one number of it. -/
def Completable (decode : Bytes → Except Fault (Reading α)) (data : Bytes) : Prop :=
  ∃ word, Accepted decode word ∧ data <+: word ∧ data ≠ word

/-- The input has no number in front, and none that it is the front of. -/
def Hopeless (decode : Bytes → Except Fault (Reading α)) (data : Bytes) : Prop :=
  ∀ word, Accepted decode word → ¬ word <+: data ∧ ¬ data <+: word

/-- The words that are read whole are those that end with their last byte. -/
theorem WordReader.accepted_iff (h : WordReader decode tenth f) {word : Bytes} :
    Accepted decode word ↔
      ∃ more last, word = more ++ [last] ∧ (∀ b ∈ more, 128 ≤ b) ∧ last < 128 ∧
        more.length ≤ 9 ∧ (more.length = 9 → tenth last) := by
  constructor
  · rintro ⟨v, hv⟩
    obtain ⟨more, last, rest, rfl, hmore, hlast, hroom, htenth, hr⟩ := (h.eq_ok_iff _ _).mp hv
    -- the word is all that there is
    have hlength : (more ++ last :: rest).length = more.length + 1 := congrArg Reading.length hr
    rw [List.length_append, List.length_cons] at hlength
    obtain rfl : rest = [] := List.length_eq_zero_iff.mp (by omega)
    exact ⟨more, last, rfl, hmore, hlast, hroom, htenth⟩
  · rintro ⟨more, last, rfl, hmore, hlast, hroom, htenth⟩
    refine ⟨f more last, (h.eq_ok_iff _ _).mpr
      ⟨more, last, [], rfl, hmore, hlast, hroom, htenth, ?_⟩⟩
    rw [List.length_append, List.length_singleton]

/-- Any byte below 128 that the tenth may be completes an input that still has room for it. -/
theorem WordReader.completable_iff (h : WordReader decode tenth f) :
    Completable decode data ↔ data.length ≤ 9 ∧ ∀ b ∈ data, 128 ≤ b := by
  constructor
  · rintro ⟨word, hword, hbegins, hne⟩
    obtain ⟨more, last, rfl, hmore, -, hroom, -⟩ := h.accepted_iff.mp hword
    -- the last byte of the word is not among those of the input
    have hfront : data <+: more := (List.prefix_concat_iff.mp hbegins).resolve_left hne
    exact ⟨Nat.le_trans hfront.length_le hroom, fun b hb => hmore b (hfront.subset hb)⟩
  · rintro ⟨hroom, hmore⟩
    -- a zero is a last byte in every place
    refine ⟨data ++ [0x00], h.accepted_iff.mpr
      ⟨data, 0x00, rfl, hmore, by decide, hroom, fun _ => h.tenth_zero⟩, List.prefix_append _ _, ?_⟩
    intro heq
    have := congrArg List.length heq
    rw [List.length_append, List.length_singleton] at this
    omega

/-- There is a number in front exactly if some front of the input is one. -/
theorem WordReader.exists_ok_iff (h : WordReader decode tenth f) :
    (∃ r, decode data = .ok r) ↔ ∃ word, Accepted decode word ∧ word <+: data := by
  constructor
  · rintro ⟨r, hr⟩
    obtain ⟨more, last, rest, rfl, hmore, hlast, hroom, htenth, -⟩ := (h.eq_ok_iff _ _).mp hr
    refine ⟨more ++ [last], h.accepted_iff.mpr ⟨more, last, rfl, hmore, hlast, hroom, htenth⟩,
      rest, ?_⟩
    rw [List.append_assoc, List.singleton_append]
  · rintro ⟨word, hword, rest, rfl⟩
    obtain ⟨more, last, rfl, hmore, hlast, hroom, htenth⟩ := h.accepted_iff.mp hword
    refine ⟨_, (h.eq_ok_iff _ _).mpr
      ⟨more, last, rest, ?_, hmore, hlast, hroom, htenth, rfl⟩⟩
    rw [List.append_assoc, List.singleton_append]

/-- An input without hope is one that no number is in front of, and that no bytes behind it
    complete. -/
theorem WordReader.hopeless_iff (h : WordReader decode tenth f) :
    Hopeless decode data ↔ (¬ ∃ r, decode data = .ok r) ∧ ¬ Completable decode data := by
  rw [h.exists_ok_iff]
  constructor
  · intro hopeless
    refine ⟨?_, ?_⟩
    · rintro ⟨word, hword, hfront⟩
      exact (hopeless word hword).1 hfront
    · rintro ⟨word, hword, hbegins, -⟩
      exact (hopeless word hword).2 hbegins
  · rintro ⟨hnone, hstuck⟩ word hword
    have hfront : ¬ word <+: data := fun hfront => hnone ⟨word, hword, hfront⟩
    refine ⟨hfront, fun hbegins => ?_⟩
    by_cases heq : data = word
    · exact hfront (heq ▸ List.prefix_rfl)
    · exact hstuck ⟨word, hword, hbegins, heq⟩

/-- No bytes behind it help an input without hope. -/
theorem Hopeless.append (h : Hopeless decode data) (rest : Bytes) :
    Hopeless decode (data ++ rest) := by
  intro word hword
  have hdata : data <+: data ++ rest := List.prefix_append data rest
  constructor
  · intro hfront
    -- a word in front of both is in front of the input, or the input is in front of the word
    rcases List.prefix_or_prefix_of_prefix hfront hdata with hle | hle
    · exact (h word hword).1 hle
    · exact (h word hword).2 hle
  · intro hbegins
    exact (h word hword).2 (hdata.trans hbegins)

end Words

/-! ## Refusals -/

/-- A number that cannot be read is at fault in one of two ways. -/
theorem eq_overflow_iff {α : Type} {x : Except Fault α} :
    x = .error .overflow ↔ (¬ ∃ r, x = .ok r) ∧ x ≠ .error .unterminated := by
  cases x with
  | ok r => simp
  | error fault => cases fault <;> simp

/-- The unsigned reader says that an input is cut off just where it can be completed. -/
theorem decodeUnsigned_eq_unterminated_iff {data : Bytes} :
    decodeUnsigned data = .error .unterminated ↔ Completable decodeUnsigned data := by
  rw [decodeUnsigned_wordReader.completable_iff]
  exact decodeUnsignedWithin_eq_unterminated_iff

/-- It says that there is an overflow just where there is no hope. -/
theorem decodeUnsigned_eq_overflow_iff {data : Bytes} :
    decodeUnsigned data = .error .overflow ↔ Hopeless decodeUnsigned data := by
  rw [eq_overflow_iff, decodeUnsigned_wordReader.hopeless_iff, ne_eq,
    decodeUnsigned_eq_unterminated_iff]

/-! ## Signed numbers -/

/-- Ten bytes that all say that more follow, the tenth of which holds nothing but a sign. -/
def Stalled (data : Bytes) : Prop :=
  data.length = 10 ∧ (∀ b ∈ data, 128 ≤ b) ∧ (data[9]? = some 0x80 ∨ data[9]? = some 0xFF)

/-- The signed reader says that an input is cut off also where it is stalled. -/
theorem decodeSigned_eq_unterminated_iff {data : Bytes} :
    decodeSigned data = .error .unterminated ↔ Completable decodeSigned data ∨ Stalled data := by
  rw [decodeSigned_wordReader.completable_iff]
  exact decodeSignedWithin_eq_unterminated_iff

/-- And so it says less often that there is an overflow. -/
theorem decodeSigned_eq_overflow_iff {data : Bytes} :
    decodeSigned data = .error .overflow ↔ Hopeless decodeSigned data ∧ ¬ Stalled data := by
  rw [eq_overflow_iff, decodeSigned_wordReader.hopeless_iff, ne_eq,
    decodeSigned_eq_unterminated_iff, not_or, and_assoc]

/-- A stalled input has used up the room for every number. -/
theorem Stalled.hopeless {data : Bytes} (h : Stalled data) : Hopeless decodeSigned data := by
  rw [decodeSigned_wordReader.hopeless_iff]
  constructor
  · rintro ⟨r, hr⟩
    rw [decodeSigned_eq_unterminated_iff.mpr (.inr h)] at hr
    nomatch hr
  · rw [decodeSigned_wordReader.completable_iff]
    rintro ⟨hroom, -⟩
    have := h.1
    omega

/-- Before its tenth byte, a stalled input had room for more. -/
theorem Stalled.completable_of_append {data rest : Bytes} (h : Stalled (data ++ rest))
    (hne : rest ≠ []) : Completable decodeSigned data := by
  obtain ⟨hlength, hmore, -⟩ := h
  have hrest : 1 ≤ rest.length := List.length_pos_iff.mpr hne
  rw [List.length_append] at hlength
  exact decodeSigned_wordReader.completable_iff.mpr
    ⟨by omega, fun b hb => hmore b (List.mem_append_left rest hb)⟩

/-- An input that cannot be helped overflows as soon as it is not stalled, whatever is behind it. -/
theorem Hopeless.decodeSigned_append {data rest : Bytes} (h : Hopeless decodeSigned data)
    (hrest : rest = [] → ¬ Stalled data) : decodeSigned (data ++ rest) = .error .overflow := by
  refine decodeSigned_eq_overflow_iff.mpr ⟨h.append rest, fun hstalled => ?_⟩
  by_cases hnil : rest = []
  · subst hnil
    exact hrest rfl (List.append_nil data ▸ hstalled)
  · exact (decodeSigned_wordReader.hopeless_iff.mp h).2 (hstalled.completable_of_append hnil)

/-! ## At a position -/

/-- What stands at a position where there is no hope stays there when bytes are appended. -/
theorem Hopeless.readSigned_append {data rest : Bytes} {pos : Nat}
    (h : Hopeless decodeSigned (data.drop pos)) (hrest : rest = [] → ¬ Stalled (data.drop pos)) :
    readSigned (data ++ rest) pos = .error (.number pos .overflow) := by
  have hpos : pos ≤ data.length := by
    by_contra hpast
    rw [List.drop_eq_nil_of_le (by omega)] at h
    -- nothing at all is the front of every number
    refine (decodeSigned_wordReader.hopeless_iff.mp h).2 ?_
    exact decodeSigned_wordReader.completable_iff.mpr ⟨Nat.zero_le 9, List.forall_mem_nil _⟩
  rw [readSigned, mapError_eq_number, List.drop_append_of_le_length hpos]
  exact h.decodeSigned_append hrest

/-- **What a refusal says about further input.**  The unsigned reader reports an input as cut off
    exactly if more input could complete it, and as an overflow exactly if neither it, nor a front
    of it, nor anything that it is the front of, is a number.  The signed reader does the same, with
    one exception: ten bytes that all say that more follow, where the tenth is a sign, are reported
    as cut off although nothing can complete them, and any byte behind them turns that into an
    overflow.  An overflow stays an overflow, whatever is appended. -/
theorem readSigned_refusals (data : Bytes) (pos : Nat) :
    (readUnsigned data pos = .error (.number pos .unterminated) ↔
      Completable decodeUnsigned (data.drop pos)) ∧
    (readUnsigned data pos = .error (.number pos .overflow) ↔
      Hopeless decodeUnsigned (data.drop pos)) ∧
    (readSigned data pos = .error (.number pos .unterminated) ↔
      Completable decodeSigned (data.drop pos) ∨ Stalled (data.drop pos)) ∧
    (readSigned data pos = .error (.number pos .overflow) ↔
      Hopeless decodeSigned (data.drop pos) ∧ ¬ Stalled (data.drop pos)) ∧
    (Stalled (data.drop pos) → Hopeless decodeSigned (data.drop pos) ∧
      ∀ b rest, readSigned (data ++ b :: rest) pos = .error (.number pos .overflow)) ∧
    (readSigned data pos = .error (.number pos .overflow) →
      ∀ rest, readSigned (data ++ rest) pos = .error (.number pos .overflow)) := by
  have hoverflow : readSigned data pos = .error (.number pos .overflow) ↔
      Hopeless decodeSigned (data.drop pos) ∧ ¬ Stalled (data.drop pos) := by
    rw [readSigned, mapError_eq_number, decodeSigned_eq_overflow_iff]
  refine ⟨?_, ?_, ?_, hoverflow, fun hstalled => ⟨hstalled.hopeless, fun b rest => ?_⟩,
    fun hover rest => ?_⟩
  · rw [readUnsigned, mapError_eq_number, decodeUnsigned_eq_unterminated_iff]
  · rw [readUnsigned, mapError_eq_number, decodeUnsigned_eq_overflow_iff]
  · rw [readSigned, mapError_eq_number, decodeSigned_eq_unterminated_iff]
  · exact hstalled.hopeless.readSigned_append fun h => absurd h (List.cons_ne_nil b rest)
  · obtain ⟨hopeless, hstalled⟩ := hoverflow.mp hover
    exact hopeless.readSigned_append fun _ => hstalled

/-- Ten groups that all say that more follow are too many for a signed number as for an unsigned
    one, but only the unsigned reader says so. -/
theorem readSigned_ten_groups :
    readSigned (List.replicate 10 0x80) 0 = .error (.number 0 .unterminated) ∧
    ¬ Completable decodeSigned (List.replicate 10 0x80) ∧
    Hopeless decodeSigned (List.replicate 10 0x80) ∧
    readUnsigned (List.replicate 10 0x80) 0 = .error (.number 0 .overflow) ∧
    readSigned (List.replicate 11 0x80) 0 = .error (.number 0 .overflow) := by
  have hmore : ∀ b ∈ List.replicate 10 (0x80 : UInt8), 128 ≤ b := by
    intro b hb
    rw [List.eq_of_mem_replicate hb]
    decide
  have hopeless : Hopeless decodeSigned (List.replicate 10 0x80) :=
    Stalled.hopeless ⟨rfl, hmore, .inl rfl⟩
  exact ⟨by decide, (decodeSigned_wordReader.hopeless_iff.mp hopeless).2, hopeless, by decide,
    by decide⟩

end WasmBinary.Leb128
