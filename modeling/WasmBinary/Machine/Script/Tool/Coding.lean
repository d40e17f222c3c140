/-
  Writing bytes as digits of a base, and reading them back.

  1. **Groups** — so many bytes become so many digits.  The last group may be filled with equals
     signs, as far as it has no bytes.

  2. **Reading back** takes whole groups; line ends do not count.  What was read in front of a
     mistake stays read.

  3. **Lines** of digits are so many digits long, or there is only one of them that has no end.
-/
import WasmBinary.Machine.Script.Tool.Dump

namespace WasmBinary.Machine.Script.Tool

open Run

namespace Coding

/-! ## Ways to write bytes -/

/-- A way to write bytes as digits. -/
structure Code where
  /-- Bytes as digits; nothing if there must not be so many bytes. -/
  encode : List Char → Option (List Char)
  /-- The bytes that digits stand for, as far as they are right, and whether all are. -/
  decode : List Char → List Char × Bool
  /-- Whether a character is a digit, or fills the place of one. -/
  isDigit : Char → Bool

/-- Digits in groups: a group of so many bytes has so many digits. -/
structure Grouped where
  digits : List Char
  bytes : Nat
  length : Nat
  /-- Whether a group that lacks digits counts as far as it goes. -/
  counts : Bool

/-- How many bits a digit has. -/
def Grouped.bits (g : Grouped) : Nat := g.bytes * 8 / g.length

/-- How many digits some bytes of a group need. -/
def Grouped.needed (g : Grouped) (bytes : Nat) : Nat := (bytes * 8 + g.bits - 1) / g.bits

/-- The digits of a group of bytes. -/
def Grouped.encodeGroup (g : Grouped) (cs : List Char) : List Char :=
  let n := (cs.rightpad g.bytes (Char.ofNat 0)).foldl (fun n c => n * 256 + c.toNat) 0
  let digits := (List.range g.length).map fun i =>
    g.digits.getD (n / Nat.pow 2 (g.bits * (g.length - 1 - i)) % Nat.pow 2 g.bits) '='
  (digits.take (g.needed cs.length)).rightpad g.length '='

/-- The bytes of a group of digits, and whether the group is right. -/
def Grouped.decodeGroup (g : Grouped) (ds : List Char) : List Char × Bool :=
  let values := (ds.map fun d => g.digits.idxOf? d).takeWhile Option.isSome |>.filterMap id
  let n := (values.rightpad g.length 0).foldl (fun n v => n * Nat.pow 2 g.bits + v) 0
  let bytes := (List.range g.bytes).map fun i =>
    Char.ofNat (n / Nat.pow 256 (g.bytes - 1 - i) % 256)
  let whole := values.length * g.bits / 8
  let filler := ds.drop values.length
  let right := ds.length = g.length && 0 < whole && values.length = g.needed whole &&
    filler.all (· = '=')
  (if g.counts || ds.length = g.length then bytes.take whole else [], right)

/-- The bytes of groups, up to the first that is not right. -/
def Grouped.decodeGroups (g : Grouped) : List (List Char) → List Char × Bool
  | [] => ([], true)
  | group :: rest =>
      match g.decodeGroup group with
      | (bytes, true) =>
          let (more, right) := g.decodeGroups rest
          (bytes ++ more, right)
      | (bytes, false) => (bytes, false)

/-- The way to write bytes that groups are. -/
def Grouped.code (g : Grouped) : Code where
  encode cs := some ((Dump.chunks g.bytes (cs.length + 1) cs).flatMap g.encodeGroup)
  decode ds := g.decodeGroups (Dump.chunks g.length (ds.length + 1) ds)
  isDigit d := g.digits.contains d || d = '='

/-- Capital letters. -/
def capitals : List Char := "ABCDEFGHIJKLMNOPQRSTUVWXYZ".toList

/-- Small letters. -/
def smalls : List Char := "abcdefghijklmnopqrstuvwxyz".toList

/-- Decimal digits. -/
def decimals : List Char := "0123456789".toList

/-- Base 64. -/
def base64 : Code := Grouped.code ⟨capitals ++ smalls ++ decimals ++ ['+', '/'], 3, 4, true⟩

/-- Bytes as digits of the usual code. -/
def base64Text (bytes : List UInt8) : String :=
  String.ofList ((base64.encode (bytes.map fun b => Char.ofNat b.toNat)).getD [])

/-- Base 64 with digits that can stand in addresses. -/
def base64url : Code where
  encode cs := (base64.encode cs).map fun ds =>
    ds.map fun d => if d = '+' then '-' else if d = '/' then '_' else d
  decode ds :=
    if ds.any fun d => d = '+' || d = '/' then ([], false)
    else base64.decode (ds.map fun d => if d = '-' then '+' else if d = '_' then '/' else d)
  isDigit d := (base64.isDigit d && d != '+' && d != '/') || d = '-' || d = '_'

/-- The digits of base 32. -/
def base32Digits : List Char := capitals ++ "234567".toList

/-- Base 32. -/
def base32 : Code := Grouped.code ⟨base32Digits, 5, 8, false⟩

/-- The digits of base 32 that keep the order of the bytes. -/
def orderedDigits : List Char := decimals ++ capitals.take 22

/-- Base 32 with digits that keep the order of the bytes. -/
def base32hex : Code where
  encode cs := (base32.encode cs).map fun ds =>
    ds.map fun d => ((base32Digits.idxOf? d).bind fun i => orderedDigits[i]?).getD d
  decode ds := base32.decode <|
    ds.map fun d => ((orderedDigits.idxOf? d).bind fun i => base32Digits[i]?).getD d
  isDigit d := orderedDigits.contains d || d = '='

/-- Digits without anything to fill a group. -/
def unfilled (digits : List Char) (count : Nat) (value : List Nat → Nat)
    (encode : Nat → List Char) : Code where
  encode cs := some (cs.flatMap fun c => encode c.toNat)
  decode ds :=
    let good := ds.takeWhile digits.contains
    let groups := Dump.chunks count (good.length + 1) good
    let whole := groups.filter fun group => group.length = count
    (whole.map fun group => Char.ofNat (value (group.filterMap fun d => digits.idxOf? d)),
      good.length = ds.length && whole.length = groups.length)
  isDigit d := digits.contains d

/-- Base 16. -/
def base16 : Code :=
  let digits := decimals ++ capitals.take 6
  unfilled digits 2 (fun values => values.foldl (fun n v => n * 16 + v) 0) fun n =>
    [digits.getD (n / 16) '0', digits.getD (n % 16) '0']

/-- Bits, the highest first. -/
def base2msbf : Code :=
  unfilled ['0', '1'] 8 (fun values => values.foldl (fun n v => n * 2 + v) 0) fun n =>
    (Nat.toDigits 2 n).leftpad 8 '0'

/-- Bits, the lowest first. -/
def base2lsbf : Code :=
  unfilled ['0', '1'] 8 (fun values => values.foldr (fun v n => n * 2 + v) 0) fun n =>
    ((Nat.toDigits 2 n).leftpad 8 '0').reverse

/-- The digits of base 85. -/
def base85Digits : List Char :=
  decimals ++ smalls ++ capitals ++ ".-:+=^!/*?&<>()[]\x7b\x7d@%$#".toList

/-- The bytes of groups of five digits, up to the first that is not right. -/
def base85Groups : List (List Char) → List Char × Bool
  | [] => ([], true)
  | group :: rest =>
      let values := group.filterMap fun d => base85Digits.idxOf? d
      let n := values.foldl (fun n v => n * 85 + v) 0
      if group.length < 5 || values.length < 5 || Nat.pow 2 32 ≤ n then ([], false)
      else
        let (more, right) := base85Groups rest
        let bytes := [n / 16777216, n / 65536 % 256, n / 256 % 256, n % 256]
        (bytes.map Char.ofNat ++ more, right)

/-- Base 85, for groups of four bytes. -/
def base85 : Code where
  encode cs :=
    if cs.length % 4 ≠ 0 then none
    else some <| (Dump.chunks 4 (cs.length + 1) cs).flatMap fun group =>
      let n := group.foldl (fun n c => n * 256 + c.toNat) 0
      [4, 3, 2, 1, 0].map fun i => base85Digits.getD (n / Nat.pow 85 i % 85) '0'
  decode ds := base85Groups (Dump.chunks 5 (ds.length + 1) ds)
  isDigit d := base85Digits.contains d

/-! ## The tools -/

/-- What is to be done with bytes. -/
structure Settings where
  code : Option Code := none
  decodes : Bool := false
  ignores : Bool := false
  width : Nat := 76

/-- What an option adds. -/
def Settings.add (s : Settings) (option : Given) : Except Misuse Settings :=
  let coded (code : Code) : Except Misuse Settings := .ok { s with code := some code }
  match option.key with
  | "d" => .ok { s with decodes := true }
  | "i" => .ok { s with ignores := true }
  | "w" =>
      match amountInBase 10 "" option.value (Nat.pow 2 63) with
      | .ok width => .ok { s with width }
      | .error .tooLarge => .ok { s with width := 0 }
      | .error _ => .error (.plain ("invalid wrap size: " ++ cited option.value))
  | "base64" => coded base64
  | "base64url" => coded base64url
  | "base32" => coded base32
  | "base32hex" => coded base32hex
  | "base16" => coded base16
  | "base2msbf" => coded base2msbf
  | "base2lsbf" => coded base2lsbf
  | _ => coded base85

/-- Writes bytes as digits, or reads them back. -/
def Settings.convert (s : Settings) (code : Code) (self text : String) : Run Unit := do
  if s.decodes then
    let digits := text.toList.filter fun d => d != '\n' && (!s.ignores || code.isDigit d)
    let (bytes, right) := code.decode digits
    emit (String.ofList bytes)
    if right then finish 0 else fail self "invalid input"
  else
    match code.encode text.toList with
    | none => fail self "invalid input (length must be multiple of 4 characters)"
    | some digits =>
        if s.width = 0 then emit (String.ofList digits)
        else
          let lines := Dump.chunks s.width (digits.length + 1) digits
          emit (String.join (lines.map fun line => String.ofList line ++ "\n"))
        finish 0

end Coding

/-- A tool that writes bytes in one way or in one of several ways. -/
def coder (choices : String) (code : Option Coding.Code) : Tool := fun self arguments =>
  withSettings ("d,decode w,wrap= i,ignore-garbage " ++ choices) { code } Coding.Settings.add self
    arguments fun s operands => do
      match s.code, operands with
      | none, _ => misuse self "missing encoding type"
      | _, _ :: extra :: _ => misuse self ("extra operand " ++ cited extra)
      | some code, operands =>
          match ← openOperand (operands.headD "-") with
          | .error fault => fail self (shown (operands.headD "-") ++ ": " ++ fault.words)
          | .ok number =>
              match ← readOpened number .flow with
              | .error fault => fail self ("read error: " ++ fault.words)
              | .ok data => s.convert code self (ByteText.ofBytes data)

/-- Writes bytes in base 64, or reads them back. -/
def base64 : Tool := coder "" (some Coding.base64)

/-- Writes bytes in base 32, or reads them back. -/
def base32 : Tool := coder "" (some Coding.base32)

/-- Writes bytes in the way that an option asks for, or reads them back. -/
def encodeBytes : Tool :=
  coder "--base64 --base64url --base32 --base32hex --base16 --base2msbf --base2lsbf --z85" none

end WasmBinary.Machine.Script.Tool
