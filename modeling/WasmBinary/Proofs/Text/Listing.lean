/-
  What listings of bytes are made of, and how it is read back.

  1. **Pieces** — piece `i` of a byte string starts `width * i` bytes in (`getElem?_chunks`), so the
     number of pieces is the number of bytes divided by the width and rounded up
     (`length_chunks`), no piece is empty, and only the last one can be shorter than the width.

  2. **Hexadecimal** — a digit is read by its place in the alphabet.  Two digits are read as a byte,
     and a byte is written as two digits that are read as that byte (`Hex.byte?_byte`).  A numeral
     is what is read as a number, has a least width, and has no zero in front beyond that width
     (`Hex.Numeral`); there is exactly one such text for a number (`Hex.numeral_iff`).

  3. **Lines** — lines that hold no newline are found again by splitting at the newlines, together
     with what stands behind the last one (`splitOn_lines`).
-/
import Mathlib.Algebra.Order.Floor.Div
import Mathlib.GroupTheory.GroupAction.Ring
import WasmBinary.Text.Hex

namespace WasmBinary

/-! ## Pieces -/

/-- The pieces by their places: each starts where the ones in front of it end. -/
theorem getElem?_chunks {width : Nat} (hwidth : 0 < width) (data : Bytes) (i : Nat) :
    (chunks width data)[i]?
      = if width * i < data.length then some ((data.drop (width * i)).take width) else none := by
  fun_induction chunks width data generalizing i with
  | case1 data h =>
    obtain rfl : data = [] := h.resolve_right (Nat.ne_of_gt hwidth)
    simp
  | case2 data h ih =>
    have hdata : 0 < data.length := by
      rw [List.length_pos_iff]
      exact fun hnil => h (Or.inl hnil)
    cases i with
    | zero => simp [hdata]
    | succ i =>
      have hplace : width * i < (data.drop width).length ↔ width * (i + 1) < data.length := by
        rw [List.length_drop, Nat.mul_succ]
        omega
      rw [List.getElem?_cons_succ, ih, List.drop_drop, Nat.mul_succ, Nat.add_comm width]
      simp only [hplace, Nat.mul_succ]

/-- A piece is not there unless it has a byte, and then it has those from its place on, up to the
    width. -/
theorem chunk_eq {width : Nat} (hwidth : 0 < width) {data piece : Bytes} {i : Nat}
    (h : (chunks width data)[i]? = some piece) :
    width * i < data.length ∧ piece = (data.drop (width * i)).take width := by
  rw [getElem?_chunks hwidth] at h
  split at h
  case isTrue hplace => exact ⟨hplace, (Option.some.inj h).symm⟩
  case isFalse => nomatch h

/-- As many pieces as it takes to hold all bytes. -/
theorem length_chunks {width : Nat} (hwidth : 0 < width) (data : Bytes) :
    (chunks width data).length = data.length ⌈/⌉ width := by
  -- the two numbers are not above the same numbers: those places at which there is no piece
  refine eq_of_forall_ge_iff fun i => ?_
  rw [ceilDiv_le_iff_le_mul hwidth, ← List.getElem?_eq_none_iff, getElem?_chunks hwidth]
  simp

/-- No piece is empty or longer than the width. -/
theorem chunk_bounds {width : Nat} (hwidth : 0 < width) {data piece : Bytes}
    (h : piece ∈ chunks width data) : piece ≠ [] ∧ piece.length ≤ width := by
  obtain ⟨i, hi⟩ := List.mem_iff_getElem?.mp h
  obtain ⟨hplace, rfl⟩ := chunk_eq hwidth hi
  rw [← List.length_pos_iff, List.length_take, List.length_drop]
  omega

/-- Only the last piece can be shorter: one that another follows has bytes up to where that one
    starts. -/
theorem length_chunk {width : Nat} (hwidth : 0 < width) {data piece : Bytes} {i : Nat}
    (h : (chunks width data)[i]? = some piece) (hnext : i + 1 < (chunks width data).length) :
    piece.length = width := by
  obtain ⟨-, rfl⟩ := chunk_eq hwidth h
  -- the piece behind it has a byte, and starts a full width further on
  obtain ⟨hplace, -⟩ := chunk_eq hwidth (List.getElem?_eq_getElem hnext)
  rw [Nat.mul_succ] at hplace
  rw [List.length_take, List.length_drop]
  omega

/-! ## Hexadecimal -/

namespace Hex

/-- The lower-case digits, each at the place of its value. -/
def alphabet : List Char :=
  "0123456789abcdef".toList

/-- What a digit stands for. -/
def digit? (c : Char) : Option Nat :=
  alphabet.idxOf? c

/-- What digits stand for, most significant first. -/
def number? (text : List Char) : Option Nat :=
  text.foldlM (fun n c => (digit? c).map (16 * n + ·)) 0

/-- Reads a byte: two digits, and nothing else. -/
def byte? : List Char → Option UInt8
  | [high, low] => do
      let h ← digit? high
      let l ← digit? low
      return UInt8.ofNat (16 * h + l)
  | _ => none

/-- A digit is read as what it was written for; there are sixteen to go through. -/
theorem digit?_digitChar : ∀ d < 16, digit? d.digitChar = some d := by
  decide

/-- What a number below sixteen is written as is one of the sixteen digits. -/
theorem digitChar_mem_alphabet : ∀ d < 16, d.digitChar ∈ alphabet := by
  decide

/-- The digits show on a line, and none of them is a blank. -/
theorem printable_of_mem_alphabet : ∀ c ∈ alphabet, 0x21 ≤ c.toNat ∧ c.toNat ≤ 0x7E := by
  -- decided along the list, and not for every character there is
  have hall : alphabet.all fun c => 0x21 ≤ c.toNat ∧ c.toNat ≤ 0x7E := by
    decide
  simpa using hall

/-- A number is written with digits of the alphabet only.  The induction takes the last digit off,
    which is what dividing by sixteen does. -/
theorem mem_alphabet_of_mem_toDigits {n : Nat} {c : Char} (h : c ∈ Nat.toDigits 16 n) :
    c ∈ alphabet := by
  induction n using Nat.strongRecOn with
  | ind n ih =>
    rw [Nat.toDigits_eq_if (by decide)] at h
    split at h
    case isTrue hsmall =>
      rw [List.mem_singleton.mp h]
      exact digitChar_mem_alphabet n hsmall
    case isFalse hlarge =>
      rcases List.mem_append.mp h with h | h
      · exact ih (n / 16) (by omega) h
      · rw [List.mem_singleton.mp h]
        exact digitChar_mem_alphabet _ (Nat.mod_lt n (by decide))

/-- The zeros in front are digits too, so a number of a least width is written with digits only. -/
theorem mem_alphabet_of_mem_digits {width n : Nat} {c : Char} (h : c ∈ digits width n) :
    c ∈ alphabet := by
  rcases List.mem_append.mp h with h | h
  · rw [(List.mem_replicate.mp h).2]
    decide
  · exact mem_alphabet_of_mem_toDigits h

/-! ### Bytes -/

/-- A byte is written as the digits of its two halves. -/
theorem byte_eq (b : UInt8) :
    byte b = [(b.toNat / 16).digitChar, (b.toNat % 16).digitChar] := by
  have hb : b.toNat < 256 := b.toNat_lt
  rw [byte, digits, Nat.toDigits_eq_if (by decide)]
  split
  case isTrue hsmall =>
    rw [Nat.div_eq_of_lt hsmall, Nat.mod_eq_of_lt hsmall]
    rfl
  case isFalse =>
    rw [Nat.toDigits_of_lt_base (by omega)]
    rfl

/-- A byte is read back from its two digits, whether it needs the second one or not. -/
theorem byte?_byte (b : UInt8) : byte? (byte b) = some b := by
  have hb : b.toNat < 256 := b.toNat_lt
  rw [byte_eq]
  simp only [byte?, digit?_digitChar _ (show b.toNat / 16 < 16 by omega),
    digit?_digitChar _ (Nat.mod_lt b.toNat (by decide : 0 < 16)), Option.bind_eq_bind,
    Option.bind_some, Nat.div_add_mod, UInt8.ofNat_toNat]
  rfl

/-! ### Numerals -/

/-- A text for a number: it is read as the number, it has a least width, and it has no zero in
    front that the width does not ask for. -/
structure Numeral (width n : Nat) (text : List Char) : Prop where
  value : number? text = some n
  width_le : width ≤ text.length
  shortest : width < text.length → text.head? ≠ some '0'

/-- What is read as a digit is one: capitals and all other characters are refused. -/
theorem digit?_eq_some {c : Char} {d : Nat} (h : digit? c = some d) :
    d < 16 ∧ c = d.digitChar := by
  obtain ⟨hd, hc, -⟩ := List.idxOf?_eq_some_iff.mp h
  -- each digit stands at the place of its value
  have hplaces : ∀ d, ∀ hd : d < alphabet.length, alphabet[d] = d.digitChar := by
    decide
  exact ⟨hd, hc.symm.trans (hplaces d hd)⟩

/-- A number is read digit by digit from the front, so that the last digit counts once and what is
    before it sixteen times. -/
theorem number?_concat (text : List Char) (c : Char) :
    number? (text ++ [c]) = (number? text).bind fun n => (digit? c).map (16 * n + ·) := by
  rw [number?, List.foldlM_append]
  simp [number?]

/-- The last digit of a number apart. -/
theorem number?_concat_eq_some {text : List Char} {c : Char} {n : Nat}
    (h : number? (text ++ [c]) = some n) :
    number? text = some (n / 16) ∧ c = (n % 16).digitChar := by
  rw [number?_concat, Option.bind_eq_some_iff] at h
  obtain ⟨m, hm, h⟩ := h
  obtain ⟨d, hd, rfl⟩ := Option.map_eq_some_iff.mp h
  obtain ⟨hlt, rfl⟩ := digit?_eq_some hd
  rw [show (16 * m + d) / 16 = m by omega, show (16 * m + d) % 16 = d by omega]
  exact ⟨hm, rfl⟩

/-- A number is read back from its digits. -/
theorem number?_toDigits (n : Nat) : number? (Nat.toDigits 16 n) = some n := by
  induction n using Nat.strongRecOn with
  | ind n ih =>
    rw [Nat.toDigits_eq_if (by decide)]
    split
    case isTrue hsmall => simp [number?, digit?_digitChar n hsmall]
    case isFalse hlarge =>
      rw [number?_concat, ih (n / 16) (by omega)]
      simp [digit?_digitChar _ (Nat.mod_lt n (by decide : 0 < 16)), Nat.div_add_mod]

/-- Zeros in front do not count. -/
theorem number?_zeros (k : Nat) (text : List Char) :
    number? (List.replicate k '0' ++ text) = number? text := by
  induction k with
  | zero => rfl
  | succ k ih => exact ih

/-- A number other than zero is written without a zero in front. -/
theorem head?_toDigits {n : Nat} (h : n ≠ 0) : (Nat.toDigits 16 n).head? ≠ some '0' := by
  induction n using Nat.strongRecOn with
  | ind n ih =>
    rw [Nat.toDigits_eq_if (by decide)]
    split
    case isTrue hsmall =>
      have hzero : ∀ d < 16, d.digitChar = '0' → d = 0 := by
        decide
      exact fun heq => h (hzero n hsmall (Option.some.inj heq))
    case isFalse hlarge =>
      rw [List.head?_append_of_ne_nil _ Nat.toDigits_ne_nil]
      exact ih (n / 16) (by omega) (by omega)

/-- Without a zero in front there is one way to write a number, and no digit at all for zero.  The
    induction is from the end, where the digit of least weight is. -/
theorem eq_of_number? {text : List Char} {n : Nat} (h : number? text = some n)
    (hhead : text.head? ≠ some '0') : text = if n = 0 then [] else Nat.toDigits 16 n := by
  induction text using List.reverseRecOn generalizing n with
  | nil =>
    obtain rfl : 0 = n := Option.some.inj h
    rfl
  | append_singleton text c ih =>
    obtain ⟨hfront, rfl⟩ := number?_concat_eq_some h
    cases text with
    | nil =>
      have hn : n / 16 = 0 := (Option.some.inj hfront).symm
      have hmod : n % 16 = n := by omega
      have hne : n ≠ 0 := fun hzero => hhead (by rw [hmod, hzero]; rfl)
      rw [if_neg hne, Nat.toDigits_of_lt_base (by omega), hmod]
      rfl
    | cons first text =>
      have htext := ih hfront hhead
      have hn : n / 16 ≠ 0 := fun hzero => by simp [hzero] at htext
      rw [if_neg hn] at htext
      rw [htext, if_neg (by omega), Nat.toDigits_eq_if (n := n) (by decide), if_neg (by omega)]

/-- A text is some zeros and what starts with none, which may be nothing. -/
theorem exists_zeros (text : List Char) :
    ∃ k rest, text = List.replicate k '0' ++ rest ∧ rest.head? ≠ some '0' := by
  induction text with
  | nil => exact ⟨0, [], rfl, nofun⟩
  | cons c text ih =>
    by_cases hc : c = '0'
    · obtain ⟨k, rest, rfl, hrest⟩ := ih
      exact ⟨k + 1, rest, by rw [hc]; rfl, hrest⟩
    · exact ⟨0, c :: text, rfl, fun hhead => hc (Option.some.inj hhead)⟩

/-- The digits of a number with a least width are the one numeral for it.  The width is not to be
    zero: then zero would have two, the empty text and its digit. -/
theorem numeral_iff {width n : Nat} {text : List Char} (hwidth : 0 < width) :
    Numeral width n text ↔ text = digits width n := by
  constructor
  · rintro ⟨hvalue, hle, hshort⟩
    obtain ⟨k, rest, rfl, hhead⟩ := exists_zeros text
    rw [number?_zeros] at hvalue
    have hrest := eq_of_number? hvalue hhead
    rw [List.length_append, List.length_replicate] at hle hshort
    cases k with
    | zero =>
      -- no zero in front, so the width is reached by the digits alone
      have hn : n ≠ 0 := by
        rintro rfl
        rw [hrest] at hle
        exact absurd hle (Nat.not_le_of_lt hwidth)
      rw [if_neg hn] at hrest
      subst hrest
      rw [digits, List.leftpad, Nat.sub_eq_zero_of_le (by omega)]
    | succ k =>
      -- a zero in front is there for the width only, so the width is met exactly
      have hlength : k + 1 + rest.length = width := by
        by_contra hne
        exact hshort (by omega) rfl
      by_cases hn : n = 0
      · rw [if_pos hn] at hrest
        subst hrest hn
        rw [← hlength, digits, List.leftpad, List.append_nil, List.replicate_succ']
        rfl
      · rw [if_neg hn] at hrest
        subst hrest
        rw [digits, List.leftpad, show width - (Nat.toDigits 16 n).length = k + 1 by omega]
  · rintro rfl
    refine ⟨?_, ?_, fun hlong => ?_⟩
    · rw [digits, List.leftpad, number?_zeros, number?_toDigits]
    · rw [digits, List.length_leftpad]
      exact Nat.le_max_left _ _
    · rw [digits, List.length_leftpad] at hlong
      have hlength : width < (Nat.toDigits 16 n).length := by omega
      have hn : n ≠ 0 := by
        rintro rfl
        have hone : (Nat.toDigits 16 0).length = 1 := rfl
        omega
      rw [digits, List.leftpad, Nat.sub_eq_zero_of_le (Nat.le_of_lt hlength)]
      exact head?_toDigits hn

end Hex

/-! ## Lines -/

/-- Lines with an end, and what is behind the last of them, as parts with ends between them. -/
theorem intercalate_concat (sep : Char) (lines : List (List Char)) (last : List Char) :
    [sep].intercalate (lines ++ [last]) = lines.flatMap (· ++ [sep]) ++ last := by
  induction lines with
  | nil => simp
  | cons line lines ih =>
    rw [List.flatMap_cons, List.append_assoc, ← ih]
    cases lines with
    | nil => simp
    | cons next lines => simp

/-- Lines that hold no newline are found again. -/
theorem splitOn_lines {lines : List (List Char)} {last : List Char}
    (hlines : ∀ line ∈ lines, '\n' ∉ line) (hlast : '\n' ∉ last) :
    (lines.flatMap (· ++ ['\n']) ++ last).splitOn '\n' = lines ++ [last] := by
  rw [← intercalate_concat]
  refine List.splitOn_intercalate '\n' ?_ (by simp)
  rw [List.forall_mem_append, List.forall_mem_singleton]
  exact ⟨hlines, hlast⟩

/-! ## Items -/

/-- What is read back one by one is read back altogether. -/
theorem mapM_mapIdx_eq_some {α β : Type} {write : Nat → α → β} {read : β → Option α}
    {items : List α} (h : ∀ i, ∀ a ∈ items, read (write i a) = some a) :
    (items.mapIdx write).mapM read = some items := by
  induction items generalizing write with
  | nil => rfl
  | cons a items ih =>
    have hrest := ih fun i b hb => h (i + 1) b (List.mem_cons_of_mem a hb)
    rw [List.mapIdx_cons, List.mapM_cons, h 0 a List.mem_cons_self, hrest]
    rfl

/-- What is read back one by one, and is written in the same way wherever it stands, is read back
    altogether. -/
theorem mapM_map_eq_some {α β : Type} {write : α → β} {read : β → Option α} {items : List α}
    (h : ∀ a ∈ items, read (write a) = some a) : (items.map write).mapM read = some items := by
  induction items with
  | nil => rfl
  | cons a items ih =>
    have hrest := ih fun b hb => h b (List.mem_cons_of_mem a hb)
    rw [List.map_cons, List.mapM_cons, h a List.mem_cons_self, hrest]
    rfl

end WasmBinary
