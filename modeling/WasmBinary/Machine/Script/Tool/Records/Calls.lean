/-
  The functions that programs on records know, as far as they work on texts and numbers.

  1. **Parts** of texts are told by a place and a length; both lose their fractions.

  2. **Substitution** — an ampersand stands for what was matched, unless a backslash is in front of
     it.

  3. **Formats** take their arguments one after the other, and there have to be enough of them.
-/
import WasmBinary.Machine.Calendar.Writing
import WasmBinary.Machine.Script.Tool.Records.State

namespace WasmBinary.Machine.Script.Tool.Records

open Run

/-! ## Texts -/

/-- The part of a text from a place on, perhaps of a length. -/
def part (s : String) (start : Float) (length : Option Float) : String :=
  let i := (Value.whole? start).getD 1
  let cs := s.toList
  let behind := cs.drop (i - 1).toNat
  match length with
  | none => String.ofList behind
  | some n =>
      match Value.whole? n with
      | some n => String.ofList (behind.take (if i ≤ 0 then n - i else n).toNat)
      | none => String.ofList (if n < 0.0 then [] else behind)

/-- The place of a text in another one, or zero. -/
def placeOf (needle : List Char) : Nat → List Char → Nat
  | i, cs =>
      if needle.isPrefixOf cs then i
      else
        match cs with
        | [] => 0
        | _ :: rest => placeOf needle (i + 1) rest

/-- What takes the place of a match. -/
def replacement (matched : String) : List Char → List Char
  | [] => []
  | '\\' :: '&' :: rest => '&' :: replacement matched rest
  | '\\' :: '\\' :: rest => '\\' :: replacement matched rest
  | '&' :: rest => matched.toList ++ replacement matched rest
  | c :: rest => c :: replacement matched rest

/-- A text with matches replaced, and how many that were. -/
def substituted (s : Regex.Searcher) (template : List Char) (all : Bool) :
    Nat → (place : Nat) → (behind : Option Nat) → (count : Nat) → List String → List String × Nat
  | 0, _, _, count, done => (done, count)
  | n + 1, place, behind, count, done =>
      let text := s.line.text
      let slice (i j : Nat) : String := String.ofList (text.extract i j).toList
      match s.next? place with
      | none => (slice place text.size :: done, count)
      | some m =>
          let bare := m.first = m.last
          if bare && behind = some m.first then
            if text.size ≤ m.last then (slice place text.size :: done, count)
            else substituted s template all n (m.last + 1) none count
              (slice place (m.last + 1) :: done)
          else
            let new := String.ofList (replacement (slice m.first m.last) template)
            let done := new :: slice place m.first :: done
            if !all then (slice m.last text.size :: done, count + 1)
            else if bare then
              if text.size ≤ m.last then (done, count + 1)
              else substituted s template all n (m.last + 1) none (count + 1)
                (slice m.last (m.last + 1) :: done)
            else substituted s template all n m.last (some m.last) (count + 1) done

/-- Replaces matches in a text: the new text, and how many matches there were. -/
def substitute (source template text : String) (all : Bool) : Work (String × Nat) := do
  let r ← regexOf source
  let line : Regex.Line := { text := text.toList.toArray }
  let (pieces, count) := substituted (Regex.Searcher.of line r) template.toList all
    (2 * text.length + 4) 0 none 0 []
  return (String.join pieces.reverse, count)

/-! ## Formats -/

/-- A conversion: its style, how many arguments its measures take, its letter, and how it is
    written. -/
structure Conversion where
  style : Numeral.Style
  widthGiven : Bool := false
  precisionGiven : Bool := false
  letter : Char

/-- The conversion behind a percent sign, if it is one, and what is behind it. -/
def conversion? (cs : List Char) : Option (Conversion × List Char) :=
  let flags := cs.takeWhile fun c => "-+ #0".toList.contains c
  let cs := cs.drop flags.length
  let measure (cs : List Char) : Bool × Nat × List Char :=
    match cs with
    | '*' :: rest => (true, 0, rest)
    | cs =>
        let digits := cs.takeWhile Char.isDigit
        (false, Nat.ofDigitChars 10 digits 0, cs.drop digits.length)
  let (widthGiven, width, cs) := measure cs
  let (precisionGiven, precision, cs) : Bool × Option Nat × List Char := match cs with
    | '.' :: rest =>
        let (given, n, rest) := measure rest
        (given, some n, rest)
    | cs => (false, none, cs)
  let cs := cs.dropWhile fun c => c = 'l' || c = 'h'
  match cs with
  | c :: rest =>
      if "cdiouxXeEfFgGaAs".toList.contains c then
        some ({ widthGiven, precisionGiven, letter := c
                style :=
                  { left := flags.contains '-', plus := flags.contains '+'
                    blank := flags.contains ' ', zeros := flags.contains '0'
                    alternative := flags.contains '#', width, precision } }, rest)
      else none
  | [] => none

/-- What an argument becomes by a conversion. -/
def Conversion.text (c : Conversion) (v : Value) : Work String := do
  let style := c.style
  let x := v.toNumber
  match c.letter with
  | 's' =>
      let s ← textOf v
      return style.fill (match style.precision with
        | some n => String.ofList (s.toList.take n)
        | none => s)
  | 'c' =>
      let code (x : Float) : Char := Char.ofNat ((Value.bounded x) % 256).toNat
      let shown := match v with
        | .number x => code x
        | .nothing => Char.ofNat 0
        | .text s => s.toList.headD (Char.ofNat 0)
        | .seen s =>
            match Value.wholeNumber? s with
            | some x => code x
            | none => s.toList.headD (Char.ofNat 0)
      return style.fill shown.toString
  | 'd' | 'i' => return style.integer (Value.bounded x)
  | 'o' | 'u' | 'x' | 'X' =>
      return style.natural c.letter ((Value.bounded x) % (Nat.pow 2 64)).toNat
  | letter => return Value.written style letter x

/-- What a format and its arguments come to: the pieces, as far as they fit, and what is wrong with
    the rest. -/
def formatted (self whole : String) :
    Nat → (number : Nat) → List Char → List Value → Work (List String × Option String)
  | 0, _, _, _ => return ([], none)
  | n + 1, number, cs, values => do
      let plain := cs.takeWhile (· ≠ '%')
      let call := self ++ "(\"" ++ whole ++ "\")"
      let few : List String × Option String :=
        ([String.ofList plain], some ("not enough arguments passed to " ++ call))
      let onward (piece : String) (rest : List String × Option String) :
          List String × Option String := (String.ofList plain :: piece :: rest.1, rest.2)
      match cs.drop plain.length with
      | [] => return ([String.ofList plain], none)
      | '%' :: '%' :: rest => return onward "%" (← formatted self whole n number rest values)
      | _ :: rest =>
          match conversion? rest with
          | none =>
              if rest.isEmpty || values.isEmpty then return few
              else return ([String.ofList plain],
                some ("improper conversion(number " ++ toString number ++ ") in " ++ call))
          | some (c, rest) =>
              let measures := c.widthGiven.toNat + c.precisionGiven.toNat
              if values.length < measures + 1 then return few
              else
                let measure (i : Nat) : Int :=
                  (Value.whole? (values.getD i .nothing).toNumber).getD 0
                let style := if c.widthGiven then
                    { c.style with
                      width := (measure 0).natAbs
                      left := c.style.left || decide (measure 0 < 0) }
                  else c.style
                let precise := measure c.widthGiven.toNat
                let style := if c.precisionGiven then
                    { style with precision := if precise < 0 then none else some precise.toNat }
                  else style
                let piece ← ({ c with style }).text (values.getD measures .nothing)
                return onward piece
                  (← formatted self whole n (number + 1) rest (values.drop (measures + 1)))

/-- What a format and its arguments come to, by the name of what formats them. -/
def formattedBy (self format : String) (values : List Value) :
    Work (List String × Option String) :=
  formatted self format (format.length + 1) 1 format.toList values

/-! ## Numbers and moments -/

/-- The next random number. -/
def nextRandom : Work Float := do
  let x := (← get).random
  let x := x ^^^ (x <<< 13)
  let x := x ^^^ (x >>> 7)
  let x := x ^^^ (x <<< 17)
  modify fun m => { m with random := x }
  return (x >>> 11).toFloat / 9007199254740992.0

/-- The second that it is. -/
def secondNow : Work Int := return (← (files : Run _)).now / 1000000000

/-- A moment by a format. -/
def momentText (format : String) (second : Int) : String :=
  (Calendar.Moment.ofNanoseconds (second * 1000000000) Calendar.Zone.universal).text format

/-- What comes of a function of one number, if it is known. -/
def numeric? (name : String) (x : Float) : Option Float :=
  match name with
  | "sin" => some (Float.sin x)
  | "cos" => some (Float.cos x)
  | "exp" => some (Float.exp x)
  | "log" => some (Float.log x)
  | "sqrt" => some (Float.sqrt x)
  | "int" => some (if x < 0.0 then Float.ceil x else Float.floor x)
  | _ => none

end WasmBinary.Machine.Script.Tool.Records
