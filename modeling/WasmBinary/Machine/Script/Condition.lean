/-
  Conditions on texts, numbers and files.

  1. **Operators** stand in front of one operand or between two.  Whether a word that could be an
     operator is one depends on what follows it, and few words are always read in a fixed way.

  2. **Conditions** are joined by `-a`, which binds tighter, and `-o`, and negated by `!`.  Both
     sides of a join are always looked at, because a mistake in either is one.
-/
import WasmBinary.Machine.Script.Process

namespace WasmBinary.Machine.Script

namespace Condition

open Run

/-- What a word can be in a condition. -/
inductive Lexeme
  | ending
  | operand
  /-- An operator in front of an operand. -/
  | unary
  /-- An operator between two operands. -/
  | binary
  | not
  | and
  | or
  | opening
  | closing
deriving DecidableEq, Repr

/-- The operators in front of an operand. -/
def unaryOperators : List String :=
  ["-r", "-w", "-x", "-e", "-f", "-d", "-c", "-b", "-p", "-u", "-g", "-k", "-s", "-t", "-z", "-n",
    "-h", "-L", "-O", "-G", "-S"]

/-- The operators between two operands. -/
def binaryOperators : List String :=
  ["=", "!=", "<", ">", "-eq", "-ne", "-ge", "-gt", "-le", "-lt", "-nt", "-ot", "-ef"]

/-- What a word is by itself. -/
def Lexeme.ofWord (word : String) : Lexeme :=
  match word with
  | "!" => not
  | "-a" => and
  | "-o" => or
  | "(" => opening
  | ")" => closing
  | _ =>
      if unaryOperators.contains word then unary
      else if binaryOperators.contains word then binary
      else operand

/-- What the word in front is.  An operator that lacks its operand, or that another operator
    follows, is an operand itself. -/
def Lexeme.ahead : List String → Lexeme
  | [] => ending
  | word :: rest =>
      match ofWord word with
      | unary =>
          match rest with
          | [] => operand
          | [_] => unary
          | second :: _ :: _ => if ofWord second = binary then operand else unary
      | opening => if rest.isEmpty then operand else opening
      | lexeme => lexeme

/-- The number that an operand is. -/
def number (text : String) : Run Int := do
  let isBlank (c : Char) : Bool := c = ' ' || (9 ≤ c.toNat && c.toNat ≤ 13)
  let cs := text.toList.dropWhile isBlank
  let (negative, cs) := match cs with
    | '-' :: rest => (true, rest)
    | '+' :: rest => (false, rest)
    | cs => (false, cs)
  let digits := cs.takeWhile Char.isDigit
  let value : Int := Nat.ofDigitChars 10 digits 0
  let value := if negative then -value else value
  let limit : Int := Nat.pow 2 63
  if digits.isEmpty || !(cs.drop digits.length).all isBlank || value < -limit || limit ≤ value then
    abort ("Illegal number: " ++ text)
  else return value

/-- Whether an operator holds of an operand. -/
def holdsOf (operator operand : String) : Run Bool := do
  let check (through : Bool) (test : Node → Bool) : Run Bool :=
    return (← nodeMeant operand through).toOption.any test
  let bit (n : Nat) : Run Bool := check true fun node => node.mode &&& n != 0
  match operator with
  | "-z" => return operand = ""
  | "-n" => return operand ≠ ""
  | "-t" =>
      let _ ← number operand
      return false
  | "-e" => check true fun _ => true
  | "-r" => check true (·.allows .read)
  | "-w" => check true (·.allows .write)
  | "-x" => check true (·.allows .run)
  | "-O" | "-G" => check true fun node => node.owner = .user
  | "-f" => check true Node.isPlain
  | "-d" => check true Node.isDirectory
  | "-c" => check true Node.isDevice
  | "-p" => check true fun node => node.kindLetter = 'p'
  | "-u" => bit 0o4000
  | "-g" => bit 0o2000
  | "-k" => bit 0o1000
  | "-s" => check true fun node => 0 < node.size
  | "-h" | "-L" => check false Node.isLink
  | _ => return false

/-- Whether an operator holds between two operands.  Of two files, the one that was changed later is
    the newer one. -/
def holdsBetween (operator a b : String) : Run Bool := do
  let numbers (test : Int → Int → Bool) : Run Bool := return test (← number a) (← number b)
  let times (test : Int → Int → Bool) : Run Bool := do
    match ← nodeMeant a, ← nodeMeant b with
    | .ok x, .ok y => return test x.changed y.changed
    | _, _ => return false
  match operator with
  | "=" => return a = b
  | "!=" => return a ≠ b
  | "<" => return a < b
  | ">" => return b < a
  | "-eq" => numbers fun x y => x = y
  | "-ne" => numbers fun x y => x ≠ y
  | "-lt" => numbers fun x y => x < y
  | "-le" => numbers fun x y => x ≤ y
  | "-gt" => numbers fun x y => x > y
  | "-ge" => numbers fun x y => x ≥ y
  | "-nt" => times fun x y => y < x
  | "-ot" => times fun x y => x < y
  | _ =>
      match ← meant a, ← meant b with
      | .ok x, .ok y => return x = y
      | _, _ => return false

/-- The complaint about a word. -/
def mistake {α : Type} (word text : String) : Run α :=
  abort (if word = "" then text else word ++ ": " ++ text)

/-! ## Reading conditions

Every reader starts at a word that it has been told about, and ends at the last word that it used.
-/

mutual

/-- Conditions joined by `-o`. -/
def disjunction : Nat → Lexeme → List String → Run (Bool × List String)
  | 0, _, words => return (false, words)
  | n + 1, lexeme, words => do
      let (a, words) ← conjunction n lexeme words
      if Lexeme.ahead words.tail = .or then
        let words := words.drop 2
        let (b, words) ← disjunction n (Lexeme.ahead words) words
        return (a || b, words)
      else return (a, words)

/-- Conditions joined by `-a`. -/
def conjunction : Nat → Lexeme → List String → Run (Bool × List String)
  | 0, _, words => return (false, words)
  | n + 1, lexeme, words => do
      let (a, words) ← negation n lexeme words
      if Lexeme.ahead words.tail = .and then
        let words := words.drop 2
        let (b, words) ← conjunction n (Lexeme.ahead words) words
        return (a && b, words)
      else return (a, words)

/-- A condition, which may be negated. -/
def negation : Nat → Lexeme → List String → Run (Bool × List String)
  | 0, _, words => return (false, words)
  | n + 1, lexeme, words => do
      if lexeme = .not then
        let next := Lexeme.ahead words.tail
        let (a, words) ← negation n next (if next = .ending then words else words.tail)
        return (!a, words)
      else primary n lexeme words

/-- A condition without joins and negations. -/
def primary : Nat → Lexeme → List String → Run (Bool × List String)
  | 0, _, words => return (false, words)
  | n + 1, lexeme, words => do
      match lexeme, words with
      | .ending, _ | _, [] => return (false, words)
      | .opening, _ :: rest =>
          let next := Lexeme.ahead rest
          if next = .closing then return (false, rest)
          else
            let (a, words) ← disjunction n next rest
            if Lexeme.ahead words.tail = .closing then return (a, words.tail)
            else mistake "" "closing paren expected"
      | .unary, operator :: rest =>
          match rest with
          | [] => mistake operator "argument expected"
          | operand :: _ => return (← holdsOf operator operand, rest)
      | _, a :: rest =>
          match Lexeme.ahead rest, rest with
          | .binary, operator :: operands =>
              match operands with
              | [] => mistake operator "argument expected"
              | b :: _ => return (← holdsBetween operator a b, operands)
          | _, _ => return (a ≠ "", words)

end

/-- Whether words are a condition that holds, read from a first word that is known. -/
def holdsFrom (lexeme : Lexeme) (words : List String) : Run Bool := do
  let (a, rest) ← disjunction (4 * words.length + 8) lexeme words
  match rest with
  | word :: _ :: _ => mistake word "unexpected operator"
  | _ => return a

/-- Whether words are a condition that holds.  Of three words with an operator in the middle, the
    first one is no operator; three or four words can be negated or stand in parentheses. -/
def holds : List String → Run Bool
  | [] => return false
  | first :: rest => do
      let words := first :: rest
      let few := rest.length = 2 || rest.length = 3
      let inside := rest.dropLast
      match rest with
      | [operator, _] =>
          if Lexeme.ofWord operator = .binary then return ← holdsFrom .operand words
      | _ => pure ()
      if few && first = "(" && rest.getLast? = some ")" then
        holdsFrom (Lexeme.ahead inside) inside
      else if few && first = "!" then return !(← holds rest)
      else holdsFrom (Lexeme.ahead words) words

end Condition

end WasmBinary.Machine.Script
