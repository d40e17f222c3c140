/-
  Binary numbers with a floating point.

  1. **Kinds** differ in how many digits their numbers have, and in how far the point can float.

  2. **Numbers** are exact: a natural number times a power of two.  Of a fraction, the nearest
     number is taken, and the even one of two.

  3. **Reading** takes decimal and hexadecimal numbers, infinities, and what is no number.

  4. **Writing** rounds the exact value to a number of places, to the even neighbour where it lies
     in the middle.
-/
import WasmBinary.Machine.Script.Numeral

namespace WasmBinary.Machine.Script

/-- A kind of numbers. -/
structure FloatKind where
  /-- How many binary digits a number has. -/
  digits : Nat
  /-- The power of two that the least number is. -/
  least : Int
  /-- The power of two that every number is below. -/
  greatest : Int
  /-- How many decimal digits any number surely has. -/
  decimals : Nat
  /-- How many binary digits are in front of the point in hexadecimal. -/
  leading : Nat

namespace FloatKind

/-- Numbers of four bytes. -/
def single : FloatKind := ⟨24, -149, 128, 6, 1⟩

/-- Numbers of eight bytes. -/
def double : FloatKind := ⟨53, -1074, 1024, 15, 1⟩

/-- Numbers of ten bytes. -/
def extended : FloatKind := ⟨64, -16445, 16384, 18, 4⟩

end FloatKind

/-- A number, or what takes its place. -/
inductive Floating
  | finite (negative : Bool) (mantissa : Nat) (power : Int)
  | infinite (negative : Bool)
  | nan (negative : Bool)
deriving DecidableEq, Repr, Inhabited

namespace Floating

open Numeral

/-! ## Rounding -/

/-- A quotient, rounded to the nearest integer, and to the even one of two. -/
def roundedQuotient (a b : Nat) : Nat :=
  let q := a / b
  let twice := 2 * (a % b)
  if b < twice || (twice = b && q % 2 = 1) then q + 1 else q

/-- A natural number times a power of a base, as a fraction. -/
def scaledFraction (base n : Nat) (power : Int) : Nat × Nat :=
  if 0 ≤ power then (n * Nat.pow base power.toNat, 1) else (n, Nat.pow base (-power).toNat)

/-- The power of two that a positive fraction is not below. -/
def binaryMagnitude (a b : Nat) : Int :=
  let guess : Int := (a.log2 : Int) - b.log2
  let (c, d) := scaledFraction 2 1 guess
  if c * b ≤ a * d then guess else guess - 1

/-- The number of a kind that is nearest to a fraction. -/
def nearest (kind : FloatKind) (negative : Bool) (a b : Nat) : Floating :=
  if a = 0 then .finite negative 0 0
  else
    let power := max kind.least (binaryMagnitude a b - kind.digits + 1)
    let (c, d) := scaledFraction 2 1 power
    let m := roundedQuotient (a * d) (b * c)
    if kind.greatest < (m.log2 : Int) + power + 1 then .infinite negative
    else .finite negative m power

/-- Whether a number is below zero, or has the sign of such numbers. -/
def isNegative : Floating → Bool
  | finite negative .. | infinite negative | nan negative => negative

/-- An integer. -/
def ofInt (n : Int) : Floating := .finite (n < 0) n.natAbs 0

/-- The size of a number as a fraction. -/
def fraction : Floating → Nat × Nat
  | finite _ m p => scaledFraction 2 m p
  | _ => (0, 1)

/-- Whether a number is zero. -/
def isZero : Floating → Bool
  | finite _ m _ => m = 0
  | _ => false

/-- The same number in another kind. -/
def inKind (kind : FloatKind) : Floating → Floating
  | finite negative m p => nearest kind negative (scaledFraction 2 m p).1 (scaledFraction 2 m p).2
  | x => x

/-- How numbers are in order; there is none where one of them is no number. -/
def order? : Floating → Floating → Option Ordering
  | nan _, _ | _, nan _ => none
  | x, y =>
      let rank (x : Floating) : Int × Nat :=
        match x with
        | infinite negative => (if negative then -1 else 1, 1)
        | _ => (0, 1)
      let signed (x : Floating) : Int :=
        if x.isNegative then -(x.fraction.1 : Int) else x.fraction.1
      if (rank x).1 ≠ (rank y).1 then some (compare (rank x).1 (rank y).1)
      else some (compare (signed x * y.fraction.2) (signed y * x.fraction.2))

/-- The number that bits stand for; the kind has a hidden digit unless it is the extended one. -/
def ofBits (kind : FloatKind) (bits : Nat) : Floating :=
  let hidden := if kind.leading = 1 then 1 else 0
  let width := kind.digits - hidden
  let exponents := (kind.greatest * 2).toNat
  let fraction := bits % Nat.pow 2 width
  let exponent := bits / Nat.pow 2 width % exponents
  let negative := bits / Nat.pow 2 width / exponents % 2 = 1
  if exponent = exponents - 1 then
    if fraction % Nat.pow 2 (kind.digits - 1) = 0 && (hidden = 1 || fraction ≠ 0) then
      .infinite negative
    else .nan negative
  else if hidden = 0 && exponent ≠ 0 && fraction < Nat.pow 2 (width - 1) then .nan negative
  else
    let m := if exponent = 0 || hidden = 0 then fraction else fraction + Nat.pow 2 width
    .finite negative m (kind.least + (max exponent 1 - 1 : Nat))

/-! ## Arithmetic -/

/-- A sum in a kind. -/
def plus (kind : FloatKind) (x y : Floating) : Floating :=
  match x, y with
  | nan negative, _ | _, nan negative => .nan negative
  | infinite a, infinite b => if a = b then x else .nan true
  | infinite .., _ => x
  | _, infinite .. => y
  | _, _ =>
      let signed (x : Floating) : Int :=
        if x.isNegative then -(x.fraction.1 : Int) else x.fraction.1
      let sum := signed x * y.fraction.2 + signed y * x.fraction.2
      let negative := if sum = 0 then x.isNegative && y.isNegative else sum < 0
      nearest kind negative sum.natAbs (x.fraction.2 * y.fraction.2)

/-- A product in a kind. -/
def times (kind : FloatKind) (x y : Floating) : Floating :=
  let negative := x.isNegative != y.isNegative
  match x, y with
  | nan sign, _ | _, nan sign => .nan sign
  | infinite .., other | other, infinite .. =>
      if other.isZero then .nan true else .infinite negative
  | _, _ =>
      nearest kind negative (x.fraction.1 * y.fraction.1) (x.fraction.2 * y.fraction.2)

/-! ## Reading -/

/-- What reading a number comes to. -/
structure Reading where
  value : Floating
  rest : String
  /-- Whether the number is too large for its kind, or too small. -/
  outOfRange : Bool := false

/-- The exponent behind one of two letters, and what follows it. -/
def exponentOf (lower upper : Char) (cs : List Char) : Int × List Char :=
  match cs with
  | e :: more =>
      if e = lower || e = upper then
        let (down, digits) := signOf more
        let power := digits.takeWhile Char.isDigit
        if power.isEmpty then (0, cs)
        else
          let n : Int := Nat.ofDigitChars 10 power 0
          (if down then -n else n, digits.drop power.length)
      else (0, cs)
  | [] => (0, [])

/-- A natural number times a power of a base, in a kind: the number, and whether that is out of
    range. -/
def ofScaled (kind : FloatKind) (negative : Bool) (base n : Nat) (power : Int) : Floating × Bool :=
  let size : Int := (Nat.toDigits base n).length + power
  let bound : Int := 2 * kind.greatest + 200
  if n = 0 then (.finite negative 0 0, false)
  else if bound < size then (.infinite negative, true)
  else if size < -bound then (.finite negative 0 0, true)
  else
    let (a, b) := scaledFraction base n power
    match nearest kind negative a b with
    | .finite negative m p =>
        let (c, d) := scaledFraction 2 m p
        let tiny := m < Nat.pow 2 (kind.digits - 1) && c * b ≠ a * d
        (.finite negative m p, tiny)
    | x => (x, true)

/-- Digits with a point among them, the number of those behind the point, and what follows. -/
def pointed (isDigit : Char → Bool) (cs : List Char) : List Char × Nat × List Char :=
  let whole := cs.takeWhile isDigit
  match cs.drop whole.length with
  | '.' :: more =>
      let digits := more.takeWhile isDigit
      if whole.isEmpty && digits.isEmpty then ([], 0, cs)
      else (whole ++ digits, digits.length, more.drop digits.length)
  | rest => (whole, 0, rest)

/-- A number by a name, and how long the name is. -/
def named? (negative : Bool) (cs : List Char) : Option (Floating × Nat) :=
  let starts (name : String) : Bool := (String.ofList (cs.take name.length)).toLower = name
  if starts "infinity" then some (.infinite negative, 8)
  else if starts "inf" then some (.infinite negative, 3)
  else if starts "nan" then
    let inside := (cs.drop 4).takeWhile fun c => c.isAlphanum || c = '_'
    if cs[3]? = some '(' && (cs.drop (4 + inside.length)).head? = some ')' then
      some (.nan negative, inside.length + 5)
    else some (.nan negative, 3)
  else none

/-- The number in front of a text, if there is one. -/
def read? (kind : FloatKind) (text : String) : Option Reading :=
  let (negative, cs) := signOf (text.toList.dropWhile isBlank)
  let decimal : Option Reading :=
    let (digits, places, rest) := pointed Char.isDigit cs
    if digits.isEmpty then
      (named? negative cs).map fun (x, length) => ⟨x, String.ofList (cs.drop length), false⟩
    else
      let (power, rest) := exponentOf 'e' 'E' rest
      let (x, outOfRange) :=
        ofScaled kind negative 10 (Nat.ofDigitChars 10 digits 0) (power - places)
      some ⟨x, String.ofList rest, outOfRange⟩
  match cs with
  | '0' :: x :: more =>
      let (digits, places, rest) := pointed isHex more
      if (x = 'x' || x = 'X') && !digits.isEmpty then
        let (power, rest) := exponentOf 'p' 'P' rest
        let n := digits.foldl (fun n c => n * 16 + hexValue c) 0
        let (value, outOfRange) := ofScaled kind negative 2 n (power - 4 * places)
        some ⟨value, String.ofList rest, outOfRange⟩
      else decimal
  | _ => decimal

/-! ## Writing -/

/-- A fraction with a number of places behind the point. -/
def fixed (places : Nat) (point : Bool) (a b : Nat) : String :=
  let rounded := roundedQuotient (a * Nat.pow 10 places) b
  let digits := (Nat.toDigits 10 rounded).leftpad (places + 1) '0'
  let whole := digits.take (digits.length - places)
  String.ofList whole ++
    if places = 0 && !point then "" else "." ++ String.ofList (digits.drop whole.length)

/-- The power of ten that a positive fraction is not below, found by counting digits. -/
def magnitude (a b : Nat) : Int :=
  if a = 0 then 0
  else
    let guess : Int := (Nat.toDigits 10 a).length - (Nat.toDigits 10 b).length
    let (c, d) := scaledFraction 10 1 guess
    if c * b ≤ a * d then guess else guess - 1

/-- The digits of a fraction, so many behind the first, with its power of ten. -/
def scaled (places : Nat) (a b : Nat) : List Char × Int :=
  let e := magnitude a b
  let shift : Int := places - e
  let n := if 0 ≤ shift then roundedQuotient (a * Nat.pow 10 shift.toNat) b
    else roundedQuotient a (b * Nat.pow 10 (-shift).toNat)
  if Nat.pow 10 (places + 1) ≤ n then (Nat.toDigits 10 (n / 10), e + 1)
  else ((Nat.toDigits 10 n).leftpad (places + 1) '0', e)

/-- A power behind a letter, with a sign. -/
def powerText (letter : Char) (least : Nat) (e : Int) : String :=
  letter.toString ++ (if e < 0 then "-" else "+") ++
    String.ofList ((Nat.toDigits 10 e.natAbs).leftpad least '0')

/-- Digits with a point behind the first. -/
def pointedDigits (digits : List Char) (point : Bool) : String :=
  String.ofList (digits.take 1) ++
    (if digits.length ≤ 1 && !point then "" else "." ++ String.ofList (digits.drop 1))

/-- A text with a point, without zeros at its end. -/
def withoutZeros (text : String) : String :=
  if text.contains '.' then
    let cs := text.toList.reverse.dropWhile (· = '0')
    String.ofList (if cs.head? = some '.' then cs.tail else cs).reverse
  else text

/-- A positive number in hexadecimal, with a power of two. -/
def hexText (kind : FloatKind) (precision : Option Nat) (point : Bool) (m : Nat) (power : Int) :
    String :=
  let places := (kind.digits - kind.leading) / 4
  let shift := if m = 0 then 0 else kind.digits - 1 - m.log2
  let shift := if kind.leading = 1 then min shift (power - kind.least).toNat else shift
  let m := m * Nat.pow 2 shift
  let e : Int := if m = 0 then 0 else power - shift + (kind.digits - kind.leading : Nat)
  let (m, places) := match precision with
    | some n => if n < places then (roundedQuotient m (Nat.pow 16 (places - n)), n) else (m, places)
    | none => (m, places)
  let digits := (Nat.toDigits 16 m).leftpad (places + 1) '0'
  let front := digits.take (digits.length - places)
  let behind := digits.drop front.length
  let behind := match precision with
    | some n => behind.rightpad n '0'
    | none => (behind.reverse.dropWhile (· = '0')).reverse
  "0x" ++ String.ofList front ++
    (if behind.isEmpty && !point then "" else "." ++ String.ofList behind) ++ powerText 'p' 1 e

/-- A finite number without sign and width. -/
def magnitudeText (kind : FloatKind) (style : Style) (letter : Char) (m : Nat) (power : Int) :
    String :=
  let (a, b) := scaledFraction 2 m power
  let places := style.precision.getD 6
  match letter with
  | 'a' => hexText kind style.precision style.alternative m power
  | 'f' => fixed places style.alternative a b
  | 'e' =>
      let (digits, e) := scaled places a b
      pointedDigits digits style.alternative ++ powerText 'e' 2 e
  | _ =>
      let significant := max places 1
      let (digits, e) := scaled (significant - 1) a b
      let trim (text : String) : String := if style.alternative then text else withoutZeros text
      if -4 ≤ e && e < significant then
        trim (fixed (significant - 1 - e).toNat style.alternative a b)
      else trim (pointedDigits digits style.alternative) ++ powerText 'e' 2 e

/-- A number as a letter asks for: in hexadecimal, with fixed places, with a power of ten, or as it
    is shorter. -/
def text (kind : FloatKind) (style : Style) (letter : Char) (x : Floating) : String :=
  let sign := style.sign x.isNegative
  let lower := letter.toLower
  let text := match x with
    | nan _ => style.fill (sign ++ "nan")
    | infinite _ => style.fill (sign ++ "inf")
    | finite _ m power =>
        let body := magnitudeText kind style lower m power
        if lower = 'a' then
          style.fillNumber true (sign ++ "0x") (String.ofList (body.toList.drop 2))
        else style.fillNumber true sign body
  if letter.isUpper then text.map Char.toUpper else text

/-- The shortest text with a power of ten, where that is shorter, that reads back as the number. -/
def shortest (kind : FloatKind) (x : Floating) : String :=
  let x := x.inKind kind
  let write (precision : Nat) : String := x.text kind { precision := some precision } 'g'
  let least := match x with
    | finite _ m _ => if m < Nat.pow 2 (kind.digits - 1) then 1 else kind.decimals
    | _ => kind.decimals
  let precisions := (List.range 22).map (· + least)
  let same (text : String) : Bool :=
    match read? kind text with
    | some r => r.value.order? x != some .lt && r.value.order? x != some .gt
    | none => true
  ((precisions.map write).find? same).getD (write (least + 21))

end Floating

end WasmBinary.Machine.Script
