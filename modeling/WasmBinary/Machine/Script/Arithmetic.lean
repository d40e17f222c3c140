/-
  Arithmetic on integers of sixty-four bits.

  1. **Expressions** have the operators of the C language apart from increments and the comma.
     They are read by the tightness of their operators.

  2. **Values** wrap around.  Division goes toward zero.  What stands behind `&&`, `||` and in the
     branch that is not taken is not evaluated, so it assigns nothing.

  3. **Faults** are told with the whole expression.
-/

namespace WasmBinary.Machine.Script

/-- The operators on two integers. -/
inductive ArithOp
  | add | sub | mul | div | mod
  | shiftLeft | shiftRight
  | lt | le | gt | ge | eq | ne
  | bitAnd | bitXor | bitOr
deriving DecidableEq, Repr

/-- The operators on one integer. -/
inductive ArithSign
  | plus | minus | not | complement
deriving DecidableEq, Repr

/-- An expression. -/
inductive Arith
  | number (value : Int)
  | variableNamed (name : String)
  | signed (sign : ArithSign) (a : Arith)
  | binary (op : ArithOp) (a b : Arith)
  | both (a b : Arith)
  | either (a b : Arith)
  | choose (condition yes no : Arith)
  /-- Assigns a value, or what an operator makes of the variable and a value. -/
  | assign (name : String) (op : Option ArithOp) (a : Arith)
deriving Repr

namespace Arith

/-! ## Reading -/

/-- A reader of an expression. -/
abbrev Reader := StateT (List Char) (Except String)

/-- An operator between two operands. -/
inductive Joiner
  | op (op : ArithOp)
  | both
  | either

/-- Operators with how tightly they bind, longer ones before their beginnings. -/
def operators : List (String × Nat × Joiner) :=
  [ ("||", 1, .either), ("&&", 2, .both), ("==", 6, .op .eq), ("!=", 6, .op .ne),
    ("<<", 8, .op .shiftLeft), (">>", 8, .op .shiftRight), ("<=", 7, .op .le), (">=", 7, .op .ge),
    ("<", 7, .op .lt), (">", 7, .op .gt), ("|", 3, .op .bitOr), ("^", 4, .op .bitXor),
    ("&", 5, .op .bitAnd), ("+", 9, .op .add), ("-", 9, .op .sub), ("*", 10, .op .mul),
    ("/", 10, .op .div), ("%", 10, .op .mod) ]

/-- The operators that assign. -/
def assignments : List (String × Option ArithOp) :=
  [ ("<<=", some .shiftLeft), (">>=", some .shiftRight), ("+=", some .add), ("-=", some .sub),
    ("*=", some .mul), ("/=", some .div), ("%=", some .mod), ("&=", some .bitAnd),
    ("^=", some .bitXor), ("|=", some .bitOr) ]

/-- Whether a text is in front. -/
def isAhead (text : String) (cs : List Char) : Bool := text.toList.isPrefixOf cs

/-- Skips blanks. -/
def skipBlanks : Reader Unit :=
  modify (·.dropWhile fun c => c = ' ' || c = '\t' || c = '\n')

/-- Takes a character, if it is in front. -/
def take? (c : Char) : Reader Bool := do
  skipBlanks
  match ← get with
  | d :: rest =>
      if d = c then
        set rest
        return true
      else return false
  | [] => return false

/-- The value of a digit in a base of up to sixteen. -/
def digit? (base : Nat) (c : Char) : Option Nat :=
  let value := if c.isDigit then c.toNat - 48
    else if 'a' ≤ c && c ≤ 'f' then c.toNat - 87
    else if 'A' ≤ c && c ≤ 'F' then c.toNat - 55
    else 16
  if value < base then some value else none

/-- The number that digits in front stand for, and what follows them. -/
def digits (base : Nat) (value : Nat) : List Char → Nat × List Char
  | c :: rest =>
      match digit? base c with
      | some d => digits base (value * base + d) rest
      | none => (value, c :: rest)
  | [] => (value, [])

/-- The greatest number. -/
def greatest : Nat := Nat.pow 2 63 - 1

/-- The number in front: decimal, octal behind a zero, or hexadecimal behind `0x`. -/
def numeral (cs : List Char) : Nat × List Char :=
  let (value, rest) := match cs with
    | '0' :: x :: c :: rest =>
        if (x = 'x' || x = 'X') && (digit? 16 c).isSome then digits 16 0 (c :: rest)
        else digits 8 0 (x :: c :: rest)
    | '0' :: rest => digits 8 0 rest
    | cs => digits 10 0 cs
  (min value greatest, rest)

/-- The number that a whole text stands for, with a sign and blanks around it. -/
def ofText? (text : String) : Option Int :=
  let isBlank (c : Char) : Bool := c = ' ' || (9 ≤ c.toNat && c.toNat ≤ 13)
  let signed := text.toList.dropWhile isBlank
  let (negative, cs) := match signed with
    | '-' :: rest => (true, rest)
    | '+' :: rest => (false, rest)
    | cs => (false, cs)
  match cs with
  | [] => if signed.isEmpty then some 0 else none
  | c :: _ =>
      if !c.isDigit then none
      else
        let (value, rest) := numeral cs
        if rest.all isBlank then some (if negative then -(value : Int) else value) else none

/-- The characters of names. -/
def isNameChar (c : Char) : Bool := c.isAlphanum || c = '_'

/-- The assigning operator in front, and what follows it. -/
def assignment? (cs : List Char) : Option (Option ArithOp × List Char) :=
  match assignments.find? fun (text, _) => isAhead text cs with
  | some (text, op) => some (op, cs.drop text.length)
  | none =>
      match cs with
      | '=' :: '=' :: _ => none
      | '=' :: rest => some (none, rest)
      | _ => none

/-- The operator in front, if it binds at least as tightly as asked. -/
def operator? (tightness : Nat) (cs : List Char) : Option (Nat × Joiner × List Char) :=
  if (assignment? cs).isSome then none
  else
    match operators.find? fun (text, _, _) => isAhead text cs with
    | some (text, t, op) => if tightness ≤ t then some (t, op, cs.drop text.length) else none
    | none => none

/-- What an operator makes of two expressions. -/
def combine : Joiner → Arith → Arith → Arith
  | .op op => .binary op
  | .both => .both
  | .either => .either

mutual

/-- A number, a variable, a signed operand or an expression in parentheses. -/
def operand : Nat → Reader Arith
  | 0 => throw "expecting primary"
  | n + 1 => do
      if ← take? '(' then
        let a ← whole n
        if ← take? ')' then return a else throw "expecting ')'"
      else if ← take? '-' then return .signed .minus (← operand n)
      else if ← take? '+' then return .signed .plus (← operand n)
      else if ← take? '!' then return .signed .not (← operand n)
      else if ← take? '~' then return .signed .complement (← operand n)
      else
        let cs ← get
        match cs with
        | c :: _ =>
            if c.isDigit then
              let (value, rest) := numeral cs
              set rest
              return .number value
            else if isNameChar c then
              let name := cs.takeWhile isNameChar
              set (cs.drop name.length)
              skipBlanks
              let name := String.ofList name
              match assignment? (← get) with
              | some (op, rest) =>
                  set rest
                  return .assign name op (← whole n)
              | none => return .variableNamed name
            else throw "expecting primary"
        | [] => throw "expecting primary"

/-- What follows a left operand, as far as it binds as tightly as asked. -/
def following : Nat → Nat → Arith → Reader Arith
  | 0, _, left => return left
  | n + 1, tightness, left => do
      skipBlanks
      match operator? tightness (← get) with
      | none => return left
      | some (t, op, rest) =>
          set rest
          let right ← following n (t + 1) (← operand n)
          following n tightness (combine op left right)

/-- A whole expression, with a choice where there is a question mark. -/
def whole : Nat → Reader Arith
  | 0 => throw "expecting primary"
  | n + 1 => do
      let condition ← following n 1 (← operand n)
      if ← take? '?' then
        let yes ← whole n
        unless ← take? ':' do throw "expecting ':'"
        return .choose condition yes (← whole n)
      else return condition

end

/-- The expression that a text is, or what is wrong with it. -/
def parse (text : String) : Except String Arith := do
  let cs := text.toList
  let (a, rest) ← (whole (4 * cs.length + 8)).run cs
  if rest.all fun c => c = ' ' || c = '\t' || c = '\n' then return a
  else throw "expecting EOF"

/-! ## Values -/

/-- An integer, wrapped to sixty-four bits. -/
def wrap (value : Int) : Int := Int.bmod value (Nat.pow 2 64)

/-- A truth value as a number. -/
def ofTruth (b : Bool) : Int := if b then 1 else 0

/-- What an operation on bits makes of two integers. -/
def bitwise (f : BitVec 64 → BitVec 64 → BitVec 64) (a b : Int) : Int :=
  (f (BitVec.ofInt 64 a) (BitVec.ofInt 64 b)).toInt

/-- Why a division has no value. -/
inductive DivisionFault
  | byZero
  /-- The quotient is no number that there is. -/
  | tooLarge
deriving DecidableEq, Repr

/-- A division, if it has a value. -/
def divided (a b quotient : Int) : Except DivisionFault Int :=
  if b = 0 then .error .byZero
  else if b = -1 && a = -Nat.pow 2 63 then .error .tooLarge
  else .ok quotient

/-- What an operator makes of two numbers. -/
def result (op : ArithOp) (a b : Int) : Except DivisionFault Int :=
  match op with
  | .add => pure (wrap (a + b))
  | .sub => pure (wrap (a - b))
  | .mul => pure (wrap (a * b))
  | .div => divided a b (a.tdiv b)
  | .mod => divided a b (a.tmod b)
  | .shiftLeft => pure (wrap (a * Nat.pow 2 (b % 64).toNat))
  | .shiftRight => pure (a.fdiv (Nat.pow 2 (b % 64).toNat))
  | .lt => pure (ofTruth (a < b))
  | .le => pure (ofTruth (a ≤ b))
  | .gt => pure (ofTruth (a > b))
  | .ge => pure (ofTruth (a ≥ b))
  | .eq => pure (ofTruth (a = b))
  | .ne => pure (ofTruth (a ≠ b))
  | .bitAnd => pure (bitwise (· &&& ·) a b)
  | .bitXor => pure (bitwise (· ^^^ ·) a b)
  | .bitOr => pure (bitwise (· ||| ·) a b)

/-- What a sign makes of a number. -/
def applySign (sign : ArithSign) (a : Int) : Int :=
  match sign with
  | .plus => a
  | .minus => wrap (-a)
  | .not => ofTruth (a = 0)
  | .complement => -a - 1

/-- The value of an expression, in a world that knows variables and what comes of a division
    without a value. -/
def value {m : Type → Type} [Monad m] (look : String → m Int) (store : String → Int → m Unit)
    (fault : DivisionFault → m Int) : Arith → m Int
  | number v => return v
  | variableNamed name => look name
  | signed sign a => return applySign sign (← a.value look store fault)
  | binary op a b => do
      let x ← a.value look store fault
      let y ← b.value look store fault
      match result op x y with
      | .ok v => return v
      | .error reason => fault reason
  | both a b => do
      if (← a.value look store fault) = 0 then return 0
      else return ofTruth ((← b.value look store fault) ≠ 0)
  | either a b => do
      if (← a.value look store fault) ≠ 0 then return 1
      else return ofTruth ((← b.value look store fault) ≠ 0)
  | choose condition yes no => do
      if (← condition.value look store fault) ≠ 0 then yes.value look store fault
      else no.value look store fault
  | assign name op a => do
      let x ← a.value look store fault
      let v ← match op with
        | none => pure x
        | some op =>
            match result op (← look name) x with
            | .ok v => pure v
            | .error reason => fault reason
      store name v
      return v

end Arith

end WasmBinary.Machine.Script
