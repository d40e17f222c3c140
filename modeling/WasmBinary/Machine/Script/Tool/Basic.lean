/-
  Tools: the programs that the machine knows by itself.

  1. **A tool** gets the name that it was called by and its arguments.  It reads and writes
     streams and files, and leaves a status.

  2. **Messages** start with the name of the tool, and may tell where help is to be found.

  3. **Amounts** are numbers with a letter for a multiplier behind them.

  4. **Operands** name files; a hyphen means the input.
-/
import WasmBinary.Machine.Script.Numeral
import WasmBinary.Machine.Script.Process
import WasmBinary.Machine.Script.Tool.Options

namespace WasmBinary.Machine.Script

/-- A program that the machine knows by itself. -/
abbrev Tool := String → List String → Run Unit

namespace Tool

open Run

/-! ## Messages -/

/-- Says something in the name of a tool. -/
def say (self text : String) : Run Unit := tell (self ++ ": " ++ text ++ "\n")

/-- Says something and fails. -/
def fail (self text : String) (status : Nat := 1) : Run Unit := do
  say self text
  finish status

/-- Says where help is to be found. -/
def hint (self : String) : Run Unit :=
  tell ("Try '" ++ self ++ " --help' for more information.\n")

/-- Says something about how the tool is used, and fails. -/
def misuse (self text : String) (status : Nat := 1) : Run Unit := do
  say self text
  hint self
  finish status

/-- Says what is wrong with how a tool is used, and fails.  The hint where help is to be found may
    be given in the name of the tool. -/
def Misuse.report (m : Misuse) (self : String) (status : Nat) (named : Bool := false) :
    Run Unit := do
  match m.lines with
  | [] => pure ()
  | first :: more =>
      say self first
      for line in more do if m.everyLine then say self line else tell (line ++ "\n")
  if m.hint then
    if named then tell (self ++ ": ")
    Tool.hint self
  finish (m.status.getD status)

/-! ## Options -/

/-- Whether an option asks for a description of the tool, and for nothing else. -/
def Given.describes (option : Given) : Bool := option.key = "help" || option.key = "version"

/-- Describes a tool, as far as one line does. -/
def describe (self : String) (option : Given) : Run Unit := do
  if option.key = "version" then
    emit ((((self.splitOn "/").getLast?).getD self) ++ " (GNU coreutils) 9.4\n")
  finish 0

/-- Runs a tool on what options come to that have been read, and on its operands. -/
def settled {σ : Type} (u : Usage) (initial : σ) (step : σ → Given → Except Misuse σ)
    (self : String) (refuse : Misuse → Run Unit) (body : σ → List String → Run Unit) :
    Run Unit := do
  let before := u.options.takeWhile fun option => !option.describes
  match u.options.drop before.length with
  | option :: _ =>
      match before.foldlM step initial with
      | .ok _ => describe self option
      | .error m => refuse m
  | [] =>
      match u.foldOptions initial step with
      | .ok settings => body settings u.operands
      | .error m => refuse m

/-- Runs a tool on what its options come to, and on its operands, if they are as it knows them. -/
def withSettings {σ : Type} (choices : String) (initial : σ) (step : σ → Given → Except Misuse σ)
    (self : String) (arguments : List String) (body : σ → List String → Run Unit)
    (status : Nat := 1) (named : Bool := false) : Run Unit :=
  settled (usageFor choices arguments) initial step self (fun m => m.report self status named) body

/-- Runs a tool on its options and operands, if they are as it knows them. -/
def withUsage (choices self : String) (arguments : List String) (body : Usage → Run Unit)
    (status : Nat := 1) : Run Unit := do
  let u := usageFor choices arguments
  match u.options.find? Given.describes, u.mistake with
  | some option, _ => describe self option
  | none, none => body u
  | none, some text => misuse self text status

/-- The value of a variable that is passed on to programs. -/
def exportedValue? (name : String) : Run (Option String) := do
  return (← entryOf? name).bind fun v => if v.exported then v.value else none

/-! ## Amounts -/

/-- Why a text is no amount. -/
inductive AmountFault
  | invalid
  /-- What stands behind the number is no multiplier that is allowed. -/
  | suffix
  /-- No word of the machine can hold it. -/
  | tooLarge
  /-- It is not among the amounts that are wanted. -/
  | outOfRange
deriving DecidableEq, Repr

/-- How a message about an amount ends. -/
def AmountFault.ending : AmountFault → String
  | invalid | suffix => ""
  | tooLarge => ": Value too large for defined data type"
  | outOfRange => ": Numerical result out of range"

/-- The power that a letter for a multiplier stands for. -/
def powerOf? (c : Char) : Option Nat :=
  match c with
  | 'k' | 'K' => some 1
  | 'm' | 'M' => some 2
  | 'g' | 'G' => some 3
  | 't' | 'T' => some 4
  | 'P' => some 5
  | 'E' => some 6
  | 'Z' => some 7
  | 'Y' => some 8
  | 'R' => some 9
  | 'Q' => some 10
  | _ => none

/-- The multiplier that a text stands for, of those whose letters are allowed.  A zero among these
    letters allows powers of thousand as well. -/
def multiplier? (allowed : String) (suffix : List Char) : Option Nat :=
  match suffix with
  | [] => some 1
  | c :: rest =>
      if !allowed.contains c then none
      else
        match powerOf? c with
        | some power =>
            match allowed.contains '0', rest with
            | _, [] => some (Nat.pow 1024 power)
            | true, ['B'] | true, ['D'] => some (Nat.pow 1000 power)
            | true, ['i', 'B'] => some (Nat.pow 1024 power)
            | _, _ => none
        | none =>
            if !rest.isEmpty then none
            else
              match c with
              | 'b' => some 512
              | 'B' => some 1024
              | 'c' => some 1
              | 'w' => some 2
              | _ => none

/-- White characters. -/
def isWhite (c : Char) : Bool := c = ' ' || (9 ≤ c.toNat && c.toNat ≤ 13)

/-- The digits of a number in front, and what follows them.  The base is told by the front of the
    number where it is zero. -/
def baseDigits (base : Nat) (cs : List Char) : Nat × List Char × List Char :=
  let plain (base : Nat) (cs : List Char) : Nat × List Char × List Char :=
    let digits := cs.takeWhile fun c => Numeral.isHex c && Numeral.hexValue c < base
    (base, digits, cs.drop digits.length)
  match base, cs with
  | 0, '0' :: x :: c :: rest =>
      if (x = 'x' || x = 'X') && Numeral.isHex c then plain 16 (c :: rest) else plain 8 cs
  | 0, '0' :: _ => plain 8 cs
  | 0, _ => plain 10 cs
  | _, _ => plain base cs

/-- The amount that a text is, where some letters for multipliers are allowed. -/
def amountInBase (base : Nat) (allowed text : String) (bound : Nat := Nat.pow 2 64) :
    Except AmountFault Nat :=
  let cs := text.toList.dropWhile isWhite
  let (base, digits, suffix) := baseDigits base <| match cs with
    | '+' :: rest => rest
    | cs => cs
  let n := if digits.isEmpty then 1
    else digits.foldl (fun n c => n * base + Numeral.hexValue c) 0
  if digits.isEmpty && !suffix.head?.any allowed.toList.contains then .error .invalid
  else
    match multiplier? allowed suffix with
    | none => .error .suffix
    | some factor => if n * factor < bound then .ok (n * factor) else .error .tooLarge

/-- The amount that a text is in decimal. -/
def amount (allowed text : String) : Except AmountFault Nat := amountInBase 10 allowed text

/-- The amount that a text is, within bounds. -/
def amountWithin (allowed : String) (least most : Nat) (text : String) :
    Except AmountFault Nat := do
  let n ← amount allowed text
  if n < least then .error .outOfRange
  else if most < n then .error (if Nat.pow 2 30 ≤ n then .tooLarge else .outOfRange)
  else return n

/-- The letters for multipliers that most tools allow. -/
def usualMultipliers : String := "bkKmMGTPEZYRQ0"

/-- The amount that the value of an option is; a message tells what is wrong with it. -/
def amountOr (what allowed text : String) (least : Nat := 0) (most : Nat := Nat.pow 2 64 - 1) :
    Except Misuse Nat :=
  match amountWithin allowed least most text with
  | .ok n => .ok n
  | .error fault => .error (.plain (what ++ ": " ++ cited text ++ fault.ending))

/-! ## Operands -/

/-- Opens what an operand means, where a hyphen means the input. -/
def openOperand (path : String) : Run (Except FileFault Nat) := do
  if path = "-" then return (← opening? 0).elim (.error badStream) .ok
  else openPath path .input

/-- Says that a tool has got all that it wants, even if there would be more. -/
def satisfied : Run Unit := modifyWorld fun w => { w with flood := .none }

/-- Reads what an operand means. -/
def readOperand (path : String) (appetite : Appetite) : Run (Except FileFault String) := do
  match ← openOperand path with
  | .error fault => return .error fault
  | .ok number => return (← readOpened number appetite).map ByteText.ofBytes

/-- The whole input; a tool that cannot read it fails. -/
def inputOr (self : String) : Run String := do
  match ← readStream 0 .flow with
  | .ok data => return ByteText.ofBytes data
  | .error .isADirectory =>
      fail self ("error reading input: " ++ FileFault.isADirectory.words)
      throw .failed
  | .error _ => return ""

/-- The operands, or the input if there are none. -/
def orInput (operands : List String) : List String :=
  if operands.isEmpty then ["-"] else operands

/-- Does something for each of some operands, and fails if any of it fails. -/
def forEach (operands : List String) (act : String → Run Bool) (status : Nat := 1) :
    Run Unit := do
  let results ← operands.mapM act
  finish (if results.all id then 0 else status)

/-- Reads the operands one after the other, and says which of them cannot be read. -/
def eachText (self : String) (operands : List String) (appetite : Appetite)
    (act : String → String → Run Unit) : Run Unit :=
  forEach (orInput operands) fun path => do
    match ← readOperand path appetite with
    | .ok text =>
        act path text
        return true
    | .error fault =>
        say self (shown path ++ ": " ++ fault.words)
        return false

/-- The pieces of a text that an end closes, without their ends.  What is left behind the last end
    is a piece as well. -/
def recordsOf (ending : Char) (text : String) : List String :=
  let parts := text.splitOn ending.toString
  if parts.getLast? = some "" then parts.dropLast else parts

/-- The pieces of a text that a character closes, each with its end. -/
def piecesOf (ending : Char) (text : String) : List String :=
  let parts := text.splitOn ending.toString
  let ended := (parts.dropLast).map (·.push ending)
  match parts.getLast? with
  | some "" | none => ended
  | some last => ended ++ [last]

/-- The lines of a text, each with its end. -/
def linesOf (text : String) : List String := piecesOf '\n' text

/-- A line without its end. -/
def bare (line : String) : String :=
  if line.endsWith "\n" then String.ofList line.toList.dropLast else line

/-- What is wrong with a name that was read from a list of names, at a place in it. -/
def nameFault? (list name : String) (i : Nat) : Option String :=
  if list = "-" && name = "-" then
    some "when reading file names from stdin, no file name of '-' allowed"
  else if name = "" then
    some (shown list ++ ":" ++ toString (i + 1) ++ ": invalid zero-length file name")
  else none

/-- Says that operands and a list of names cannot be given together. -/
def refuseOperand (self operand : String) (status : Nat := 1) : Run Unit := do
  say self ("extra operand " ++ cited operand)
  tell "file operands cannot be combined with --files0-from\n"
  hint self
  finish status

/-- What follows the last slash of a path. -/
def baseName (path : String) : String :=
  match ((path.splitOn "/").filter (· ≠ "")).getLast? with
  | some name => name
  | none => if path = "" then "" else "/"

/-- A number in decimal digits, with blanks in front up to a width. -/
def padded (width n : Nat) : String := String.ofList ((Nat.toDigits 10 n).leftpad width ' ')

/-- A text with blanks behind it up to a width. -/
def filled (width : Nat) (text : String) : String := text.pushn ' ' (width - text.length)

end Tool

end WasmBinary.Machine.Script
