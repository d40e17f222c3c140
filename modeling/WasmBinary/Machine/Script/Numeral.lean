/-
  Numbers as texts.

  1. **Reading** — a number may have white space and a sign in front, and is octal behind a zero
     and hexadecimal behind `0x`.  What follows the number is left.

  2. **Writing integers** — a sign, digits up to a precision, and blanks or zeros up to a width.
-/

namespace WasmBinary.Machine.Script.Numeral

/-! ## Reading -/

/-- White characters. -/
def isBlank (c : Char) : Bool := c = ' ' || (9 ≤ c.toNat && c.toNat ≤ 13)

/-- Whether a character is a hexadecimal digit. -/
def isHex (c : Char) : Bool := c.isDigit || ('a' ≤ c && c ≤ 'f') || ('A' ≤ c && c ≤ 'F')

/-- The value of a hexadecimal digit. -/
def hexValue (c : Char) : Nat :=
  if c.isDigit then c.toNat - 48 else if 'a' ≤ c then c.toNat - 87 else c.toNat - 55

/-- A sign in front: whether it is a minus, and what follows. -/
def signOf : List Char → Bool × List Char
  | '-' :: rest => (true, rest)
  | '+' :: rest => (false, rest)
  | cs => (false, cs)

/-- The natural number in front, if there is one, and what follows it. -/
def natural? (cs : List Char) : Option (Nat × List Char) :=
  let plain (base : Nat) (test : Char → Bool) (cs : List Char) : Nat × List Char :=
    let digits := cs.takeWhile test
    (digits.foldl (fun n c => n * base + hexValue c) 0, cs.drop digits.length)
  match cs with
  | '0' :: x :: c :: rest =>
      if (x = 'x' || x = 'X') && isHex c then some (plain 16 isHex (c :: rest))
      else some (plain 8 (fun c => '0' ≤ c && c ≤ '7') (x :: c :: rest))
  | '0' :: rest => some (plain 8 (fun c => '0' ≤ c && c ≤ '7') rest)
  | c :: _ => if c.isDigit then some (plain 10 Char.isDigit cs) else none
  | [] => none

/-- The integer in front of a text, if there is one, and what follows it. -/
def integer? (text : String) : Option (Int × String) :=
  let (negative, cs) := signOf (text.toList.dropWhile isBlank)
  (natural? cs).map fun (n, rest) =>
    (if negative then -(n : Int) else n, String.ofList rest)

/-- The greatest count. -/
def greatestCount : Nat := Nat.pow 2 31 - 1

/-- The count that a text is.  There may be white space around it, and a sign. -/
def count? (text : String) : Option Nat :=
  let (negative, cs) := signOf (text.toList.dropWhile isBlank)
  let digits := cs.takeWhile Char.isDigit
  let n := Nat.ofDigitChars 10 digits 0
  let fits := !digits.isEmpty && (cs.drop digits.length).all isBlank && n ≤ greatestCount
  if fits && (!negative || n = 0) then some n else none

/-! ## Integers -/

/-- How something is written. -/
structure Style where
  left : Bool := false
  plus : Bool := false
  blank : Bool := false
  zeros : Bool := false
  alternative : Bool := false
  width : Nat := 0
  precision : Option Nat := none

/-- Fills a text up to the width. -/
def Style.fill (style : Style) (text : String) : String :=
  let blanks := String.ofList (List.replicate (style.width - text.length) ' ')
  if style.left then text ++ blanks else blanks ++ text

/-- Fills digits behind a sign up to the width, with zeros if that is wanted. -/
def Style.fillNumber (style : Style) (zeros : Bool) (sign digits : String) : String :=
  if zeros && style.zeros && !style.left then
    let missing := style.width - sign.length - digits.length
    sign ++ String.ofList (List.replicate missing '0') ++ digits
  else style.fill (sign ++ digits)

/-- The sign of a number. -/
def Style.sign (style : Style) (negative : Bool) : String :=
  if negative then "-" else if style.plus then "+" else if style.blank then " " else ""

/-- The digits of a number, up to the precision. -/
def Style.digits (style : Style) (base n : Nat) : String :=
  let digits := if n = 0 && style.precision = some 0 then [] else Nat.toDigits base n
  String.ofList (digits.leftpad (style.precision.getD 0) '0')

/-- An integer in decimal. -/
def Style.integer (style : Style) (value : Int) : String :=
  style.fillNumber style.precision.isNone (style.sign (value < 0)) (style.digits 10 value.natAbs)

/-- A natural number as a letter asks for: octal, hexadecimal or decimal. -/
def Style.natural (style : Style) (letter : Char) (n : Nat) : String :=
  match letter with
  | 'o' =>
      let digits := style.digits 8 n
      let digits := if style.alternative && !digits.startsWith "0" then "0" ++ digits else digits
      style.fillNumber style.precision.isNone "" digits
  | 'x' | 'X' =>
      let mark := if style.alternative && n ≠ 0 then "0x" else ""
      let text := style.fillNumber style.precision.isNone mark (style.digits 16 n)
      if letter = 'X' then text.map Char.toUpper else text
  | _ => style.fillNumber style.precision.isNone "" (style.digits 10 n)

end WasmBinary.Machine.Script.Numeral
