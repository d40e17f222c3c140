/-
  PREFIX-FREE encodings: items that can be told apart, and told from what follows them.

  An encoding is prefix-free when two items, each with any bytes behind it, can only give the same
  byte string if they are the same item and the bytes behind them are the same bytes.  It is the
  property that lets encodings stand side by side without a separator, and it is stronger than
  being injective.

  1. **Numbers** — the last byte of a LEB128 number is its first one below 128, so a number ends
     where it says it ends (`Grouped.prefixFree`): a group below 128 is never confused with one
     above, and equal groups leave equal numbers for the groups that follow.  Unsigned and signed
     numbers differ only in how they are taken apart.

  2. **Vectors** — the count in front tells how many items to expect.  Without it the items alone
     would not do: `flatten` forgets where a list ends.

  The numbers here have no largest one, so no lemma asks for a bound on a length or a count.
-/
import WasmBinary.Vec

namespace WasmBinary

/-- Equal bytes come from the same item with the same bytes behind it. -/
def PrefixFree {α : Type} (enc : α → Bytes) : Prop :=
  ∀ ⦃x y : α⦄ ⦃s t : Bytes⦄, enc x ++ s = enc y ++ t → x = y ∧ s = t

namespace PrefixFree

variable {α β : Type} {enc : α → Bytes}

/-- Items that can be told apart in front of others can be told apart alone. -/
theorem injective (henc : PrefixFree enc) : Function.Injective enc := by
  intro x y h
  exact (henc (congrArg (· ++ []) h)).1

/-- An item may be looked at through any injective function first. -/
theorem comp (henc : PrefixFree enc) {f : β → α} (hf : Function.Injective f) :
    PrefixFree (enc ∘ f) := by
  intro x y s t h
  obtain ⟨hxy, hst⟩ := henc h
  exact ⟨hf hxy, hst⟩

/-- As many items on both sides: the items agree one by one, and so does what is left. -/
theorem flatten (henc : PrefixFree enc) : ∀ (xs ys : List α) {s t : Bytes},
    xs.length = ys.length → (xs.map enc).flatten ++ s = (ys.map enc).flatten ++ t →
    xs = ys ∧ s = t
  | [], [], _, _, _, h => ⟨rfl, h⟩
  | x :: xs, y :: ys, s, t, hlen, h => by
    simp only [List.map_cons, List.flatten_cons, List.append_assoc] at h
    obtain ⟨rfl, hrest⟩ := henc h
    obtain ⟨rfl, hst⟩ := flatten henc xs ys (Nat.succ.inj hlen) hrest
    exact ⟨rfl, hst⟩

/-- Items that are never empty need no count when nothing follows them. -/
theorem flatMap_injective (henc : PrefixFree enc) (hne : ∀ x, enc x ≠ []) :
    Function.Injective fun xs : List α => xs.flatMap enc := by
  intro xs
  induction xs with
  | nil =>
    intro ys h
    cases ys with
    | nil => rfl
    | cons y ys => simp [hne y] at h
  | cons x xs ih =>
    intro ys h
    cases ys with
    | nil => simp [hne x] at h
    | cons y ys =>
      simp only [List.flatMap_cons] at h
      obtain ⟨rfl, hrest⟩ := henc h
      rw [ih hrest]

end PrefixFree

/-! ## Numbers -/

namespace Leb128

theorem toNat_toUInt8 {n : Nat} (h : n < 256) : n.toUInt8.toNat = n :=
  Nat.mod_eq_of_lt h

/-- Small naturals are the same if their bytes are. -/
theorem toUInt8_inj {m n : Nat} (hm : m < 256) (hn : n < 256) (h : m.toUInt8 = n.toUInt8) :
    m = n := by
  have := congrArg UInt8.toNat h
  rwa [toNat_toUInt8 hm, toNat_toUInt8 hn] at this

/-- Numbers that are written as groups of seven bits, the lowest first, with the high bit of a
    byte set as long as more follow.  `low` and `high` take a number apart. -/
structure Grouped {α : Type} (enc : α → Bytes) (last : α → Prop) (low : α → Nat)
    (high : α → α) : Prop where
  low_lt : ∀ x, low x < 128
  of_last : ∀ x, last x → enc x = [(low x).toUInt8]
  of_more : ∀ x, ¬ last x → enc x = (low x + 128).toUInt8 :: enc (high x)

/-- `low` and `high` have to tell numbers apart, and `low` alone has to where no group follows. -/
theorem Grouped.prefixFree {α : Type} {enc : α → Bytes} {last : α → Prop} {low : α → Nat}
    {high : α → α} (henc : Grouped enc last low high)
    (hlast : ∀ x y, last x → last y → low x = low y → x = y)
    (hmore : ∀ x y, low x = low y → high x = high y → x = y) : PrefixFree enc := by
  intro x
  -- on the number of groups: `high` need not make a number smaller
  induction hgroups : (enc x).length using Nat.strongRecOn generalizing x with
  | ind groups ih =>
    intro y s t h
    have hx := henc.low_lt x
    have hy := henc.low_lt y
    by_cases hxl : last x
    · rw [henc.of_last x hxl] at h
      by_cases hyl : last y
      · rw [henc.of_last y hyl] at h
        obtain ⟨hb, hst⟩ := List.cons.inj h
        exact ⟨hlast x y hxl hyl (toUInt8_inj (by omega) (by omega) hb), hst⟩
      · -- `x` is over after one byte and `y` is not
        rw [henc.of_more y hyl] at h
        have := toUInt8_inj (by omega) (by omega) (List.cons.inj h).1
        omega
    · have hxs := henc.of_more x hxl
      rw [hxs] at h
      by_cases hyl : last y
      · rw [henc.of_last y hyl] at h
        have := toUInt8_inj (by omega) (by omega) (List.cons.inj h).1
        omega
      · rw [henc.of_more y hyl] at h
        -- both go on, and what is left of the two is shorter
        obtain ⟨hb, hrest⟩ := List.cons.inj h
        have hlows := toUInt8_inj (by omega) (by omega) hb
        have hfewer : (enc (high x)).length < groups := by
          rw [← hgroups, hxs]
          exact Nat.lt_succ_self _
        obtain ⟨hhighs, hst⟩ := ih _ hfewer rfl hrest
        exact ⟨hmore x y (by omega) hhighs, hst⟩

/-- A number below 128 is one byte. -/
theorem encodeUnsigned_of_lt {n : Nat} (h : n < 128) : encodeUnsigned n = [n.toUInt8] := by
  rw [encodeUnsigned, if_pos h]

/-- Any other number is its lowest seven bits with the high bit set, and then what is left of it. -/
theorem encodeUnsigned_of_ge {n : Nat} (h : ¬ n < 128) :
    encodeUnsigned n = (n % 128 + 128).toUInt8 :: encodeUnsigned (n / 128) := by
  rw [encodeUnsigned, if_neg h]

/-- Unsigned numbers are taken apart by division, down to one that is below 128. -/
theorem encodeUnsigned_grouped : Grouped encodeUnsigned (· < 128) (· % 128) (· / 128) where
  low_lt n := Nat.mod_lt n (by omega)
  of_last n hn := by rw [encodeUnsigned_of_lt hn, Nat.mod_eq_of_lt hn]
  of_more _ hn := encodeUnsigned_of_ge hn

/-- **Unsigned numbers tell where they end**, and quotient and remainder give back what they were
    taken from. -/
theorem encodeUnsigned_prefixFree : PrefixFree encodeUnsigned := by
  refine encodeUnsigned_grouped.prefixFree ?_ ?_
  · intro m n hm hn hlow
    omega
  · intro m n hlow hhigh
    omega

/-- A signed number of seven bits is one byte. -/
theorem encodeSigned_of_small {v : Int} (h : -64 ≤ v ∧ v < 64) :
    encodeSigned v = [(v % 128).toNat.toUInt8] := by
  rw [encodeSigned, if_pos h]

/-- Any other signed number is its lowest seven bits with the high bit set, and then what is left of
    it, rounded down. -/
theorem encodeSigned_of_large {v : Int} (h : ¬(-64 ≤ v ∧ v < 64)) :
    encodeSigned v = ((v % 128).toNat + 128).toUInt8 :: encodeSigned (v / 128) := by
  rw [encodeSigned, if_neg h]

/-- Signed numbers are taken apart by division that rounds down, to one of seven bits. -/
theorem encodeSigned_grouped :
    Grouped encodeSigned (fun v => -64 ≤ v ∧ v < 64) (fun v => (v % 128).toNat) (· / 128) where
  low_lt v := by omega
  of_last _ hv := encodeSigned_of_small hv
  of_more _ hv := encodeSigned_of_large hv

/-- **Signed numbers tell where they end.**  A last group holds the number up to a multiple of 128,
    which the bounds for last groups settle. -/
theorem encodeSigned_prefixFree : PrefixFree encodeSigned := by
  refine encodeSigned_grouped.prefixFree ?_ ?_
  · intro v w hv hw hlow
    omega
  · intro v w hlow hhigh
    omega

end Leb128

/-! ## Vectors -/

namespace Vec

/-- Vectors of prefix-free items are prefix-free. -/
theorem ofItems_prefixFree {α : Type} {enc : α → Bytes} (henc : PrefixFree enc) :
    PrefixFree fun xs : List α => ofItems (xs.map enc) := by
  intro xs ys s t h
  simp only [ofItems, List.length_map, List.append_assoc] at h
  obtain ⟨hlen, h⟩ := Leb128.encodeUnsigned_prefixFree h
  exact henc.flatten xs ys hlen h

/-- Bytes behind their number are told apart by the number first, and then there are as many on both
    sides. -/
theorem ofBytes_prefixFree : PrefixFree ofBytes := by
  intro xs ys s t h
  simp only [ofBytes, List.append_assoc] at h
  obtain ⟨hlen, h⟩ := Leb128.encodeUnsigned_prefixFree h
  exact List.append_inj h hlen

/-- Names are told apart by their UTF-8 bytes, and different texts have different bytes. -/
theorem ofName_prefixFree : PrefixFree ofName := by
  refine ofBytes_prefixFree.comp (f := fun name : String => name.toUTF8.data.toList) ?_
  intro a b h
  exact String.toByteArray_inj.mp (ByteArray.ext (Array.toList_inj.mp h))

end Vec

end WasmBinary
