/-
  Sums of lists of numbers.
-/

namespace WasmBinary

/-- The sum of numbers. -/
def sumOf (numbers : List Nat) : Nat := numbers.foldl (· + ·) 0

theorem foldl_add (numbers : List Nat) (n : Nat) :
    numbers.foldl (· + ·) n = n + numbers.foldl (· + ·) 0 := by
  induction numbers generalizing n with
  | nil => rfl
  | cons m rest ih =>
    simp only [List.foldl_cons]
    rw [ih (n + m), ih (0 + m)]
    omega

@[simp] theorem sumOf_nil : sumOf [] = 0 := rfl

@[simp] theorem sumOf_cons (n : Nat) (rest : List Nat) : sumOf (n :: rest) = n + sumOf rest := by
  simp only [sumOf, List.foldl_cons]
  rw [foldl_add]
  omega

end WasmBinary
