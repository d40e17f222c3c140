/-
  The tool that takes numbers apart into primes.

  1. **Small divisors** are tried one after the other.

  2. **Great divisors** are found by a walk that comes back to where it was sooner modulo a divisor
     than modulo the number itself.

  3. **Primes** are told by powers of a few bases.
-/
import WasmBinary.Machine.Script.Tool.Basic

namespace WasmBinary.Machine.Script.Tool

open Run

namespace Factors

/-- A power modulo a number. -/
def powerModulo (m : Nat) : Nat → (base exponent : Nat) → Nat
  | 0, _, _ => 1 % m
  | n + 1, base, exponent =>
      if exponent = 0 then 1 % m
      else
        let half := powerModulo m n (base * base % m) (exponent / 2)
        if exponent % 2 = 1 then base * half % m else half

/-- How often a number can be halved, and what is left. -/
def halves : Nat → Nat → Nat × Nat
  | 0, n => (0, n)
  | fuel + 1, n =>
      if n ≠ 0 && n % 2 = 0 then
        let (count, rest) := halves fuel (n / 2)
        (count + 1, rest)
      else (0, n)

/-- Whether one of some squarings gives the number in front of the modulus. -/
def reachesEnd (m : Nat) : Nat → Nat → Bool
  | 0, _ => false
  | n + 1, x => x = m - 1 || reachesEnd m n (x * x % m)

/-- Whether an odd number is a prime, as far as some bases tell. -/
def isPrime (m : Nat) : Bool :=
  let (count, odd) := halves (m.log2 + 1) (m - 1)
  [2, 3, 5, 7, 11, 13, 17, 19, 23, 29, 31, 37, 41, 43].all fun base =>
    base % m = 0 ||
      let x := powerModulo m (m.log2 + 2) base odd
      x = 1 || reachesEnd m count x

/-- The small divisors of a number from one on, and what is left of it. -/
def smallDivisors : Nat → (divisor n : Nat) → List Nat × Nat
  | 0, _, n => ([], n)
  | fuel + 1, d, n =>
      if n < d * d then (if n ≤ 1 then ([], 1) else ([n], 1))
      else if n % d = 0 then
        let (others, rest) := smallDivisors fuel d (n / d)
        (d :: others, rest)
      else smallDivisors fuel (if d = 2 then 3 else d + 2) n

/-- A divisor of a number that is no prime, by a walk. -/
def walk (m step : Nat) : Nat → (slow fast : Nat) → Option Nat
  | 0, _, _ => none
  | n + 1, slow, fast =>
      let next (x : Nat) : Nat := (x * x + step) % m
      let slow := next slow
      let fast := next (next fast)
      let d := Nat.gcd (if slow < fast then fast - slow else slow - fast) m
      if d = 1 then walk m step n slow fast else if d = m then none else some d

/-- A divisor of a number that is no prime, by the first walk that finds one. -/
def divisor? (m : Nat) : Nat → (step : Nat) → Option Nat
  | 0, _ => none
  | n + 1, step =>
      match walk m step 200000 2 2 with
      | some d => some d
      | none => divisor? m n (step + 1)

/-- The primes of a number that has no small divisors. -/
def greatPrimes : Nat → Nat → List Nat
  | 0, m => [m]
  | n + 1, m =>
      if m ≤ 1 then []
      else if isPrime m then [m]
      else
        match divisor? m 20 1 with
        | some d => greatPrimes n d ++ greatPrimes n (m / d)
        | none => [m]

/-- The primes of a number, the least one first. -/
def primes (n : Nat) : List Nat :=
  if n ≤ 1 then []
  else
    let (small, rest) := smallDivisors 4000 2 n
    (small ++ greatPrimes 100 rest).mergeSort (· ≤ ·)

/-- A number with its primes; perhaps those that are the same are written as powers. -/
def line (powers : Bool) (n : Nat) : String :=
  let all := primes n
  let words :=
    if powers then
      all.eraseDups.map fun p =>
        let count := all.count p
        if count = 1 then toString p else toString p ++ "^" ++ toString count
    else all.map toString
  toString n ++ ":" ++ String.join (words.map fun word => " " ++ word) ++ "\n"

/-- The number that a word is. -/
def numberOf? (word : String) : Option Nat :=
  let cs := word.toList.dropWhile (· = ' ')
  let cs := if cs.head? = some '+' then cs.drop 1 else cs
  if cs.isEmpty || !cs.all Char.isDigit then none else some (Nat.ofDigitChars 10 cs 0)

end Factors

/-- Takes numbers apart into primes. -/
def factor : Tool := fun self arguments =>
  withUsage "h,exponents" self arguments fun u => do
    let words ← if !u.operands.isEmpty then pure u.operands else do
      let text ← inputOr self
      pure ((text.splitToList fun c => c = ' ' || c = '\t' || c = '\n').filter (· ≠ ""))
    let results ← words.mapM fun word => do
      match Factors.numberOf? word with
      | some n => return some (Factors.line (u.has 'h') n)
      | none =>
          say self (quoted word ++ " is not a valid positive integer")
          return none
    emit (String.join (results.filterMap id))
    finishWith (results.all Option.isSome)

end WasmBinary.Machine.Script.Tool
