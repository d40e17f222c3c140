/-
  The tool that writes numbers with letters for their magnitudes.

  1. **Reading** — a number may have a fraction, and a letter for a power of thousand or of 1024
     behind it, if letters are expected.

  2. **Rounding** — a number with a letter has one place behind its point if it is less than ten,
     and else none.  It is rounded away from zero, if no other way is asked for.

  3. **Fields** of lines are replaced, and keep their widths.
-/
import WasmBinary.Machine.Script.Tool.Basic

namespace WasmBinary.Machine.Script.Tool

open Run

namespace Magnitudes

/-- What letters mean. -/
inductive Scale
  | none
  /-- Powers of thousand or of 1024, as the letters say. -/
  | auto
  | thousand
  | binary
  /-- Powers of 1024, with another letter behind the first one. -/
  | marked
deriving DecidableEq, Repr

/-- Where a number is rounded to. -/
inductive Rounding
  | up
  | down
  | fromZero
  | towardsZero
  | nearest
deriving DecidableEq, Repr

/-- What happens when something is no number. -/
inductive Invalid
  | abort
  | fail
  | warn
  | ignore
deriving DecidableEq, Repr

/-- How a number is laid out. -/
structure Layout where
  front : String := ""
  back : String := ""
  width : Nat := 0
  left : Bool := false
  zeros : Bool := false
  places : Option Nat := none

/-- How numbers are read and written. -/
structure Settings where
  source : Scale := .none
  target : Scale := .none
  sourceUnit : Nat := 1
  targetUnit : Nat := 1
  rounding : Rounding := .fromZero
  suffix : String := ""
  layout : Layout := {}
  padded : Bool := false
  header : Nat := 0
  /-- The first and the last one of the fields that are replaced, several times. -/
  fields : List (Nat × Option Nat) := [(1, some 1)]
  delimiter : Option Char := none
  invalid : Invalid := .abort
  debugs : Bool := false
  ending : Char := '\n'

/-- The letters for magnitudes. -/
def letters : List Char := "KMGTPEZYRQ".toList

/-! ## Numbers -/

/-- A quotient. -/
structure Quotient where
  numerator : Int
  denominator : Nat := 1

/-- A quotient as a whole number. -/
def Quotient.round (q : Quotient) (r : Rounding) : Int :=
  let d := (q.denominator : Int)
  let floor := Int.fdiv q.numerator d
  let ceiling := -Int.fdiv (-q.numerator) d
  let negative := q.numerator < 0
  match r with
  | .up => ceiling
  | .down => floor
  | .fromZero => if negative then floor else ceiling
  | .towardsZero => if negative then ceiling else floor
  | .nearest =>
      let size := (2 * q.numerator.natAbs + q.denominator) / (2 * q.denominator)
      if negative then -(size : Int) else size

/-- A quotient times another one. -/
def Quotient.times (q : Quotient) (a b : Nat) : Quotient :=
  { numerator := q.numerator * (a : Int), denominator := q.denominator * b }

/-- Whether the size of a quotient is at least a number. -/
def Quotient.reaches (q : Quotient) (n : Nat) : Bool := n * q.denominator ≤ q.numerator.natAbs

/-- A whole number of units of a power of ten, with so many places behind its point. -/
def decimalText (n : Int) (places : Nat) : String :=
  let digits := (Nat.toDigits 10 n.natAbs).leftpad (places + 1) '0'
  let whole := digits.take (digits.length - places)
  let fraction := digits.drop (digits.length - places)
  (if n < 0 then "-" else "") ++ String.ofList whole ++
    (if places = 0 then "" else "." ++ String.ofList fraction)

/-- The power of a base that a quotient is brought below, and the quotient then. -/
def scaled (base : Nat) : Nat → Nat → Quotient → Nat × Quotient
  | 0, power, q => (power, q)
  | n + 1, power, q =>
      if q.reaches base then scaled base n (power + 1) (q.times 1 base) else (power, q)

/-- A quotient as a text, with so many places if it has no letter. -/
def written (s : Settings) (places : Nat) (q : Quotient) : String :=
  let base := if s.target = .thousand then 1000 else 1024
  if s.target = .none then
    let places := s.layout.places.getD places
    decimalText ((q.times (Nat.pow 10 places) 1).round s.rounding) places
  else
    let (power, q) := scaled base 40 0 q
    let adjust := match s.layout.places with
      | some n => min (power * 3) n
      | none => if q.reaches 10 then 0 else 1
    let n := (q.times (Nat.pow 10 adjust) 1).round s.rounding
    let rounded : Quotient := { numerator := n, denominator := Nat.pow 10 adjust }
    let (power, rounded) :=
      if rounded.reaches base then (power + 1, rounded.times 1 base) else (power, rounded)
    let pointed := n ≠ 0 && !rounded.reaches 10 && 0 < power
    let places := s.layout.places.getD pointed.toNat
    let shown := decimalText ((rounded.times (Nat.pow 10 places) 1).round .nearest) places
    let letter := if power = 0 then "" else (letters.getD (power - 1) '?').toString
    shown ++ letter ++ (if s.target = .marked && 0 < power then "i" else "")

/-! ## Reading -/

/-- The number that a text is, and how many places it has behind its point; or what is wrong. -/
def read (s : Settings) (text : String) : Except String (Quotient × Nat) := do
  let cs := text.toList
  let negative := cs.head? = some '-'
  let cs := if negative then cs.drop 1 else cs
  let whole := cs.takeWhile Char.isDigit
  let rest := cs.drop whole.length
  let (fraction, rest) := match rest with
    | '.' :: more =>
        let digits := more.takeWhile Char.isDigit
        (digits, more.drop digits.length)
    | _ => ([], rest)
  if whole.isEmpty && fraction.isEmpty then throw ("invalid number: " ++ quoted text)
  let significant := whole.dropWhile (· = '0')
  if 33 < significant.length then
    throw ("value too large to be converted: " ++ quoted text)
  let size := Nat.ofDigitChars 10 (whole ++ fraction) 0
  let q : Quotient :=
    { numerator := if negative then -(size : Int) else size
      denominator := Nat.pow 10 fraction.length }
  if rest.isEmpty then
    if s.source = .marked then
      throw ("missing 'i' suffix in input: " ++ quoted text ++ " (e.g Ki/Mi/Gi)")
    return (q, fraction.length)
  else
    let rest := rest.dropWhile fun c => c = ' ' || c = '\t'
    let letter := rest.headD '?'
    if !letters.contains letter then throw ("invalid suffix in input: " ++ quoted text)
    if s.source = .none then
      throw ("rejecting suffix in input: " ++ quoted text ++ " (consider using --from)")
    let power := letters.idxOf letter + 1
    let rest := rest.drop 1
    let marked := rest.head? = some 'i'
    if s.source = .marked && !marked then
      throw ("missing 'i' suffix in input: " ++ quoted text ++ " (e.g Ki/Mi/Gi)")
    let taken := marked && (s.source = .auto || s.source = .marked)
    let base := match s.source with
      | .thousand => 1000
      | .auto => if marked then 1024 else 1000
      | _ => 1024
    let rest := if taken then rest.drop 1 else rest
    if !rest.isEmpty then
      throw ("invalid suffix in input " ++ quoted text ++ ": " ++ quoted (String.ofList rest))
    return (q.times (Nat.pow base power) 1, 0)

/-! ## Fields -/

/-- A number in the place of a field. -/
def converted (s : Settings) (number : Nat) (field : String) : Except String String := do
  let body := if s.suffix ≠ "" && field.endsWith s.suffix && field ≠ s.suffix then
      (field.dropEnd s.suffix.length).toString
    else field
  let bare := String.ofList (body.toList.dropWhile fun c => c = ' ' || c = '\t')
  let (q, places) ← read s bare
  let q := q.times s.sourceUnit s.targetUnit
  let text := written s places q ++ s.suffix
  let auto := !s.padded && s.layout.width = 0 && s.delimiter.isNone &&
    (1 < number || bare.length < body.length)
  let width := if auto then body.length else s.layout.width
  let gap := "".pushn (if s.layout.zeros then '0' else ' ') (width - text.length)
  let text :=
    if s.layout.left then text ++ gap
    else if s.layout.zeros && text.startsWith "-" then
      "-" ++ gap ++ (text.drop 1).toString
    else gap ++ text
  return s.layout.front ++ text ++ s.layout.back

/-- The fields of a line that blanks are between; all but one of them belong to the next field. -/
def blankFields : Nat → List Char → List (List Char)
  | 0, _ => []
  | n + 1, cs =>
      let isGap (c : Char) : Bool := c = ' ' || c = '\t' || c = '\n'
      let gap := cs.takeWhile isGap
      let word := (cs.drop gap.length).takeWhile fun c => !isGap c
      match cs.drop (gap.length + word.length) with
      | [] => [gap ++ word]
      | _ :: rest => (gap ++ word) :: blankFields n rest

/-- The fields of a line. -/
def fieldsOf (s : Settings) (line : String) : List String :=
  match s.delimiter with
  | some d => line.splitOn d.toString
  | none => (blankFields (line.length + 1) line.toList).map String.ofList

/-- Whether a field is replaced. -/
def Settings.replaces (s : Settings) (number : Nat) : Bool :=
  s.fields.any fun (first, last) => first ≤ number && last.all (number ≤ ·)

/-- Writes the fields of a line: whether all of them could be converted; nothing if that is the end
    of it all. -/
def writeFields (s : Settings) (self : String) (between : String) :
    (number : Nat) → (fine : Bool) → List String → Run (Option Bool)
  | _, fine, [] => return some fine
  | number, fine, field :: rest => do
      if 1 < number then emit between
      if !s.replaces number then
        emit field
        writeFields s self between (number + 1) fine rest
      else
        match converted s number field with
        | .ok text =>
            emit text
            writeFields s self between (number + 1) fine rest
        | .error fault =>
            if s.invalid ≠ .ignore then say self fault
            if s.invalid = .abort then return none
            emit field
            writeFields s self between (number + 1) (fine && s.invalid ≠ .fail) rest

/-- Writes lines: whether all of them could be converted. -/
def writeLines (s : Settings) (self : String) : (fine : Bool) → List String → Run Bool
  | fine, [] => return fine
  | fine, line :: rest => do
      let between := (s.delimiter.getD ' ').toString
      match ← writeFields s self between 1 true (fieldsOf s line) with
      | none => return false
      | some now =>
          emit s.ending.toString
          writeLines s self (fine && now) rest

/-! ## Options -/

/-- The layout that a text describes.  Two percent signs count as one, but the text around the
    number is kept as it is: so much of it in front as counts, and all of it behind. -/
def layoutOf (text : String) : Except Misuse Layout := do
  let cs := text.toList
  let split (cs : List Char) : Nat × List Char := plainFront cs.length cs
  let (front, rest) := split cs
  if rest.isEmpty then throw (.plain ("format " ++ quoted text ++ " has no % directive"))
  let rest := rest.drop 1
  let flags := rest.takeWhile fun c => c = '0' || c = '\'' || c = ' '
  let rest := rest.drop flags.length
  let left := rest.head? = some '-'
  let rest := if left then rest.drop 1 else rest
  let digits := rest.takeWhile Char.isDigit
  let rest := rest.drop digits.length
  let (places, rest) := match rest with
    | '.' :: more =>
        let digits := more.takeWhile Char.isDigit
        (some (Nat.ofDigitChars 10 digits 0), more.drop digits.length)
    | _ => (none, rest)
  if rest.head? ≠ some 'f' then
    throw (.plain ("invalid format " ++ quoted text ++
      ", directive must be %[0]['][-][N][.][N]f"))
  let back := rest.drop 1
  if !(split back).2.isEmpty then
    throw (.plain ("format " ++ quoted text ++ " has too many % directives"))
  return {
    front := String.ofList (cs.take front)
    back := String.ofList back
    width := Nat.ofDigitChars 10 digits 0
    left
    zeros := flags.contains '0' && !left
    places }
where
  /-- How much is in front of a percent sign, and what follows; two of them count as one. -/
  plainFront : Nat → List Char → Nat × List Char
    | 0, cs => (0, cs)
    | _, [] => (0, [])
    | n + 1, '%' :: '%' :: rest =>
        let (count, rest) := plainFront n rest
        (count + 1, rest)
    | _, '%' :: rest => (0, '%' :: rest)
    | n + 1, _ :: rest =>
        let (count, rest) := plainFront n rest
        (count + 1, rest)

/-- The fields that a list describes. -/
def rangesOf (text : String) : Except Misuse (List (Nat × Option Nat)) :=
  (text.splitOn ",").mapM fun part => do
    let number (word : String) : Except Misuse Nat :=
      match word.toNat? with
      | some 0 => throw (.hinted "fields are numbered from 1")
      | some n => return n
      | none => throw (.hinted ("invalid field value " ++ quoted word))
    match part.splitOn "-" with
    | [one] => do
        let n ← number one
        return (n, some n)
    | ["", ""] => return (1, none)
    | ["", last] => return (1, some (← number last))
    | [first, ""] => return (← number first, none)
    | [first, last] => return (← number first, some (← number last))
    | _ => throw (.hinted ("invalid field value " ++ quoted part))

/-- The size of a unit. -/
def unitOf (text : String) : Except Misuse Nat :=
  let wrong : Misuse := .plain ("invalid unit size: " ++ quoted text)
  let digits := text.toList.takeWhile Char.isDigit
  let n := if digits.isEmpty then 1 else Nat.ofDigitChars 10 digits 0
  match text.toList.drop digits.length with
  | [] => if digits.isEmpty || n = 0 then .error wrong else .ok n
  | [c] =>
      if letters.contains c && n ≠ 0 then .ok (n * Nat.pow 1000 (letters.idxOf c + 1))
      else .error wrong
  | [c, 'i'] =>
      if letters.contains c && n ≠ 0 then .ok (n * Nat.pow 1024 (letters.idxOf c + 1))
      else .error wrong
  | _ => .error wrong

/-- The scale of a name. -/
def scaleOf (option value : String) (names : List String) : Except Misuse Scale := do
  match ← choiceOf names value option with
  | "auto" => return .auto
  | "si" => return .thousand
  | "iec" => return .binary
  | "iec-i" => return .marked
  | _ => return .none

/-- Takes an option into account. -/
def Settings.add (s : Settings) (option : Given) : Except Misuse Settings := do
  let value := option.value
  match option.key with
  | "from" =>
      return { s with source := ← scaleOf "--from" value ["none", "auto", "si", "iec", "iec-i"] }
  | "to" => return { s with target := ← scaleOf "--to" value ["none", "si", "iec", "iec-i"] }
  | "from-unit" => return { s with sourceUnit := ← unitOf value }
  | "to-unit" => return { s with targetUnit := ← unitOf value }
  | "round" =>
      match ← choiceOf ["up", "down", "from-zero", "towards-zero", "nearest"] value "--round" with
      | "up" => return { s with rounding := .up }
      | "down" => return { s with rounding := .down }
      | "towards-zero" => return { s with rounding := .towardsZero }
      | "nearest" => return { s with rounding := .nearest }
      | _ => return { s with rounding := .fromZero }
  | "padding" =>
      let cs := value.toList
      let left := cs.head? = some '-'
      let digits := if left then cs.drop 1 else cs
      let width := Nat.ofDigitChars 10 digits 0
      if digits.isEmpty || !digits.all Char.isDigit || width = 0 then
        throw (.plain ("invalid padding value " ++ quoted value))
      return { s with padded := true, layout := { s.layout with width, left } }
  | "suffix" => return { s with suffix := value }
  | "field" => return { s with fields := ← rangesOf value }
  | "format" => return { s with layout := ← layoutOf value }
  | "d" =>
      match value.toList with
      | [] => return s
      | [c] => return { s with delimiter := some c }
      | _ => throw (.plain "the delimiter must be a single character")
  | "header" =>
      if !option.valued then return { s with header := 1 }
      match value.toNat? with
      | some n =>
          if n = 0 then throw (.plain ("invalid header value " ++ quoted value))
          return { s with header := n }
      | none => throw (.plain ("invalid header value " ++ quoted value))
  | "invalid" =>
      match ← choiceOf ["abort", "fail", "warn", "ignore"] value "--invalid" with
      | "fail" => return { s with invalid := .fail }
      | "warn" => return { s with invalid := .warn }
      | "ignore" => return { s with invalid := .ignore }
      | _ => return { s with invalid := .abort }
  | "debug" => return { s with debugs := true }
  | "z" => return { s with ending := '\x00' }
  | _ => return s

/-- Whether the settings ask for any change. -/
def Settings.changes (s : Settings) : Bool :=
  s.source ≠ .none || s.target ≠ .none || s.sourceUnit ≠ 1 || s.targetUnit ≠ 1 ||
    s.layout.width ≠ 0 || s.layout.places.isSome || s.suffix ≠ ""

end Magnitudes

/-- Writes numbers with letters for their magnitudes, or without them. -/
def formatNumbers : Tool := fun self arguments =>
  withSettings ("--from= --from-unit= --to= --to-unit= --round= --padding= --suffix= " ++
      "--grouping d,delimiter= --field= --debug ---debug --header=? --format= --invalid= " ++
      "z,zero-terminated")
    {} Magnitudes.Settings.add self arguments fun s operands => do
      if s.debugs && !s.changes then say self "no conversion option specified"
      let lines ← if !operands.isEmpty then pure operands else do
        let text ← inputOr self
        let lines := recordsOf s.ending text
        emit (String.join ((lines.take s.header).map (·.push s.ending)))
        pure (lines.drop s.header)
      let fine ← Magnitudes.writeLines s self true lines
      finish (if fine then 0 else 2)

end WasmBinary.Machine.Script.Tool
