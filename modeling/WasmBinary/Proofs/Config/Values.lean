/-
  The values of settings, as texts.

  Each of the three readers accepts a set of texts that can be said without it.

  1. **Thresholds** — the name of a threshold, in capitals or not (`Threshold.Names`).

  2. **Flags** — a word for yes or for no, in capitals or not, between blanks (`Flag`).  Nothing is
     blank within such a word, capitals or not, so that taking the blanks off both ends leaves just
     the word (`Blank.trim_of_solid`).

  3. **Numbers** — digits, one at least, behind a plus sign or behind nothing, for a number below
     2^64 (`Word`).
-/
import Mathlib.Algebra.Group.Nat.Defs
import WasmBinary.Config

namespace WasmBinary

/-! ## Thresholds -/

/-- A text names a threshold, in capitals or not. -/
def Threshold.Names (text : String) (t : Threshold) : Prop :=
  text.toUpper = t.name

/-- The reader of thresholds finds the one whose name a text is, in capitals or not. -/
theorem Threshold.ofName?_eq_some_iff {text : String} {t : Threshold} :
    ofName? text = some t ↔ Names text t := by
  constructor
  · intro h
    have hname := List.find?_some h
    exact (eq_of_beq hname).symm
  · intro h
    rw [ofName?, h]
    -- no two of the six have the same name
    cases t with
    | off => rfl
    | upTo level => cases level <;> rfl

/-- The more reticent of two admits the fewer levels. -/
theorem Threshold.rank_min (s t : Threshold) : (s.min t).rank = Nat.min s.rank t.rank := by
  rw [Threshold.min]
  split
  case isTrue h => exact (Nat.min_eq_left h).symm
  case isFalse h => exact (Nat.min_eq_right (Nat.le_of_not_le h)).symm

/-! ## Flags -/

namespace Blank

/-- Blanks in front of what starts with none. -/
theorem dropWhile_isBlank {front rest : List Char} (hfront : ∀ c ∈ front, isBlank c = true)
    (hrest : ∀ c ∈ rest.head?, isBlank c = false) : (front ++ rest).dropWhile isBlank = rest := by
  rw [List.dropWhile_append_of_pos hfront]
  cases rest with
  | nil => rfl
  | cons c rest => rw [List.dropWhile_cons_of_neg (by rw [hrest c rfl]; exact Bool.false_ne_true)]

/-- Trimming leaves a word that has no blank in it as it is. -/
theorem trim_of_solid {front word back : List Char} (hfront : ∀ c ∈ front, isBlank c = true)
    (hback : ∀ c ∈ back, isBlank c = true) (hword : ∀ c ∈ word, isBlank c = false) :
    trim (front ++ word ++ back) = word := by
  cases word with
  | nil =>
    -- blanks only, so that all of them are taken off at the front
    have hall : (front ++ back ++ []).dropWhile isBlank = [] :=
      dropWhile_isBlank (List.forall_mem_append.mpr ⟨hfront, hback⟩) nofun
    rw [List.append_nil] at hall
    rw [trim, List.append_nil, hall]
    rfl
  | cons c word =>
    have hleft : (front ++ (c :: word ++ back)).dropWhile isBlank = c :: word ++ back :=
      dropWhile_isBlank hfront (by simpa using hword c List.mem_cons_self)
    have hright : (back.reverse ++ (c :: word).reverse).dropWhile isBlank
        = (c :: word).reverse := by
      refine dropWhile_isBlank (by simpa using hback) fun d hd => hword d ?_
      exact List.mem_reverse.mp (List.mem_of_mem_head? hd)
    rw [trim, List.append_assoc, hleft, List.reverse_append, hright, List.reverse_reverse]

/-- What trimming takes off is blank. -/
theorem exists_trim (text : List Char) :
    ∃ front back, text = front ++ trim text ++ back ∧ (∀ c ∈ front, isBlank c = true) ∧
      ∀ c ∈ back, isBlank c = true := by
  have hblank : ∀ whole : List Char, ∀ c ∈ whole.takeWhile isBlank, isBlank c = true :=
    fun whole => List.all_eq_true.mp List.all_takeWhile
  refine ⟨text.takeWhile isBlank, ((text.dropWhile isBlank).reverse.takeWhile isBlank).reverse, ?_,
    hblank text, fun c hc => hblank _ c (List.mem_reverse.mp hc)⟩
  rw [trim, List.append_assoc, ← List.reverse_append, List.takeWhile_append_dropWhile,
    List.reverse_reverse, List.takeWhile_append_dropWhile]

/-- Capitals are not blank. -/
theorem toLower_of_isBlank {c : Char} (h : isBlank c = true) : c.toLower = c := by
  -- the blanks are few, and none of their code points is that of a capital
  have hcapital : ∀ n ∈ codePoints, ¬ (65 ≤ n ∧ n ≤ 90) := by
    decide
  exact dif_neg (hcapital c.toNat (List.contains_iff_mem.mp h))

end Blank

namespace Config

/-- The words for a flag. -/
def flagWords : Bool → List String
  | false => ["", "0", "false", "no"]
  | true => ["1", "true", "yes"]

/-- A text says a flag: with a word for it, in capitals or not, between blanks. -/
def Flag (text : String) (flag : Bool) : Prop :=
  ∃ front word back, text.toList = front ++ word ++ back ∧
    (∀ c ∈ front, Blank.isBlank c = true) ∧ (∀ c ∈ back, Blank.isBlank c = true) ∧
    (String.ofList word).toLower ∈ flagWords flag

/-- No word for a flag has a blank in it, so that blanks around a word cannot be mistaken for a part
    of it. -/
theorem flagWords_solid : ∀ flag, ∀ word ∈ flagWords flag, ∀ c ∈ word.toList,
    Blank.isBlank c = false := by
  have hnone : ∀ flag, ∀ word ∈ flagWords flag, !word.toList.any Blank.isBlank := by
    decide
  simpa using hnone

/-- Reading a flag is looking for the trimmed text, without capitals, among the words for it.  No
    word stands for both flags, so the order in which the two lists are looked through does not
    matter. -/
theorem flag?_eq_some_iff_mem {text : String} {flag : Bool} :
    flag? text = some flag ↔
      (String.ofList (Blank.trim text.toList)).toLower ∈ flagWords flag := by
  generalize hword : (String.ofList (Blank.trim text.toList)).toLower = word
  have hflag : flag? text = if word ∈ flagWords false then some false
      else if word ∈ flagWords true then some true else none := by
    rw [← hword]
    rfl
  rw [hflag]
  -- no word says both
  have hdisjoint : ∀ w ∈ flagWords true, w ∉ flagWords false := by
    decide
  by_cases hno : word ∈ flagWords false
  · have hyes : word ∉ flagWords true := fun hyes => hdisjoint word hyes hno
    rw [if_pos hno]
    cases flag <;> simp [hno, hyes]
  · rw [if_neg hno]
    by_cases hyes : word ∈ flagWords true
    · rw [if_pos hyes]
      cases flag <;> simp [hno, hyes]
    · rw [if_neg hyes]
      cases flag <;> simp [hno, hyes]

/-- Texts that say a flag are read as that flag, and no others. -/
theorem flag?_eq_some_iff {text : String} {flag : Bool} :
    flag? text = some flag ↔ Flag text flag := by
  rw [flag?_eq_some_iff_mem]
  constructor
  · intro h
    obtain ⟨front, back, htext, hfront, hback⟩ := Blank.exists_trim text.toList
    exact ⟨front, _, back, htext, hfront, hback, h⟩
  · rintro ⟨front, word, back, htext, hfront, hback, hword⟩
    -- a blank in the word would still be there without capitals, where no word has one
    have hsolid : ∀ c ∈ word, Blank.isBlank c = false := by
      intro c hc
      rw [← Bool.not_eq_true]
      intro hblank
      have hlower : c ∈ (String.ofList word).toLower.toList := by
        show c ∈ ((String.ofList word).map Char.toLower).toList
        rw [String.toList_map, String.toList_ofList]
        exact List.mem_map.mpr ⟨c, hc, Blank.toLower_of_isBlank hblank⟩
      exact Bool.false_ne_true ((flagWords_solid flag _ hword c hlower).symm.trans hblank)
    rw [htext, Blank.trim_of_solid hfront hback hsolid]
    exact hword

/-! ## Numbers -/

/-- A text says a number of 64 bits: in decimal digits, behind a plus sign or behind nothing. -/
def Word (text : String) (n : Nat) : Prop :=
  ∃ digits, (text.toList = digits ∨ text.toList = '+' :: digits) ∧ digits ≠ [] ∧
    (∀ c ∈ digits, c.isDigit = true) ∧ n = Nat.ofDigitChars 10 digits 0 ∧ n < 2 ^ 64

/-- A number without the plus sign in front. -/
def unsigned : List Char → List Char
  | '+' :: rest => rest
  | whole => whole

/-- Without its sign, a text is what it was, or what is behind a plus sign. -/
theorem unsigned_cases (text : List Char) : text = unsigned text ∨ text = '+' :: unsigned text := by
  unfold unsigned
  split
  case h_1 => exact Or.inr rfl
  case h_2 => exact Or.inl rfl

/-- Digits are what is left of them without a sign, since a plus sign is no digit. -/
theorem unsigned_of_digits {text digits : List Char} (h : text = digits ∨ text = '+' :: digits)
    (hdigits : ∀ c ∈ digits, c.isDigit = true) : unsigned text = digits := by
  rcases h with rfl | rfl
  · unfold unsigned
    split
    case h_1 => exact absurd (hdigits '+' List.mem_cons_self) (by decide)
    case h_2 => rfl
  · rfl

/-- Texts that say a number of 64 bits are read as that number, and no others. -/
theorem word64?_eq_some_iff {text : String} {n : Nat} :
    word64? text = some n ↔ Word text n := by
  have heq : word64? text
      = if unsigned text.toList ≠ [] ∧ (unsigned text.toList).all Char.isDigit then
        if Nat.ofDigitChars 10 (unsigned text.toList) 0 < 2 ^ 64 then
          some (Nat.ofDigitChars 10 (unsigned text.toList) 0) else none
      else none :=
    rfl
  rw [heq]
  constructor
  · intro h
    split at h
    case isFalse => nomatch h
    case isTrue hread =>
      split at h
      case isFalse => nomatch h
      case isTrue hlt =>
        obtain rfl := Option.some.inj h
        exact ⟨_, unsigned_cases _, hread.1, List.all_eq_true.mp hread.2, rfl, hlt⟩
  · rintro ⟨digits, htext, hne, hdigits, rfl, hlt⟩
    rw [unsigned_of_digits htext hdigits, if_pos ⟨hne, List.all_eq_true.mpr hdigits⟩, if_pos hlt]

end Config

end WasmBinary
