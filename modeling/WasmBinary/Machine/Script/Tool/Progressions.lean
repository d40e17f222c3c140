/-
  The tool that writes arithmetic progressions.

  1. **Terms** — the first term, the step and the bound are extended numbers.  How a decimal is
     written tells how many places the terms have, and how wide they are.

  2. **Formats** — a format has one conversion of a number, with text around it.  Without one, a
     term has as many places as the first term and the step, or as few digits as it needs.

  3. **The end** comes behind the last term that is within the bound.  A term that is beyond it,
     but is written as the bound is, still counts.

  4. **Integers** that are not negative are counted exactly, however large they are.
-/
import WasmBinary.Machine.Script.Floating
import WasmBinary.Machine.Script.Tool.Basic

namespace WasmBinary.Machine.Script.Tool

open Run

namespace Progressions

/-! ## Terms -/

/-- A number that was given. -/
structure Term where
  value : Floating := .ofInt 1
  /-- How many characters it has when it is written out. -/
  width : Int := 1
  /-- How many places are behind its point, if that can be told. -/
  places : Option Int := some 0

/-- What an exponent behind a decimal does to its places and its width.  The fraction has so many
    places as it is written, and the text that much in front of the exponent. -/
def Term.moved (term : Term) (exponent : Int) (fraction : Option Nat) (length : Nat) : Term :=
  let written : Int := (fraction.getD 0 : Nat)
  let places := (term.places.getD 0) + if exponent < 0 then -exponent
    else -(min (term.places.getD 0) exponent)
  let width := term.width - length
  if exponent < 0 then
    let point := fraction.isNone || fraction = some 0
    { term with places, width := width + (if point then 1 else 0) - exponent }
  else
    let lost := fraction.isSome && places = 0 && written ≠ 0
    { term with
      places
      width := width - (if lost then 1 else 0) + (exponent - min written exponent) }

/-- The term that a decimal is. -/
def ofDecimal (value : Floating) (text : String) : Term :=
  let cs := text.toList
  let mark (c : Char) : Bool := c = 'e' || c = 'E'
  let body := cs.takeWhile fun c => !mark c
  let front := body.takeWhile (· ≠ '.')
  let fraction := if body.contains '.' then some (body.length - front.length - 1) else none
  let pointWidth : Int := match fraction with
    | none => 0
    | some 0 => -1
    | some _ => if front.getLast?.any Char.isDigit then 0 else 1
  let term : Term :=
    { value, width := cs.length + pointWidth, places := some (fraction.getD 0 : Nat) }
  match cs.drop body.length with
  | [] => term
  | _ :: digits =>
      let (down, digits) := Numeral.signOf digits
      let size : Int := Nat.ofDigitChars 10 (digits.takeWhile Char.isDigit) 0
      term.moved (if down then -size else size) fraction (cs.length - body.length)

/-- Why a text is no term. -/
inductive TermFault
  | noNumber
  | nan

/-- The term that a text is. -/
def Term.ofText (text : String) : Except TermFault Term :=
  match Floating.read? .extended text with
  | none => .error .noNumber
  | some r =>
      if r.rest ≠ "" || (r.outOfRange && !r.value.isZero) then .error .noNumber
      else
        let bare := text.toList.dropWhile fun c => Numeral.isBlank c || c = '+'
        match r.value with
        | .nan _ => .error .nan
        | .infinite _ => .ok { value := r.value, width := 0, places := some 0 }
        | value =>
            if !bare.contains 'x' && !bare.contains 'X' then
              .ok (ofDecimal value (String.ofList bare))
            else
              let whole := !bare.contains '.' && !bare.contains 'p'
              .ok { value, width := 0, places := if whole then some 0 else none }

/-! ## Formats -/

/-- How terms are written. -/
structure Form where
  front : String := ""
  style : Numeral.Style
  letter : Char
  back : String := ""

/-- A term as a form asks for, without the text around it. -/
def Form.number (form : Form) (x : Floating) : String := x.text .extended form.style form.letter

/-- A term as a form asks for. -/
def Form.text (form : Form) (x : Floating) : String := form.front ++ form.number x ++ form.back

/-- Text in front of a conversion, in which percent signs are doubled, and what follows it. -/
def literal : List Char → List Char × List Char
  | '%' :: '%' :: rest =>
      let (text, rest) := literal rest
      ('%' :: text, rest)
  | '%' :: rest => ([], '%' :: rest)
  | c :: rest =>
      let (text, rest) := literal rest
      (c :: text, rest)
  | [] => ([], [])

/-- The form that a format asks for, or what is wrong with it. -/
def Form.ofText (format : String) : Except String Form := do
  let (front, rest) := literal format.toList
  let conversion := rest.drop 1
  let flags := conversion.takeWhile fun c => "-+#0 '".contains c
  let conversion := conversion.drop flags.length
  let width := conversion.takeWhile Char.isDigit
  let conversion := conversion.drop width.length
  let (precision, conversion) := match conversion with
    | '.' :: more =>
        let digits := more.takeWhile Char.isDigit
        (some (Nat.ofDigitChars 10 digits 0), more.drop digits.length)
    | more => (none, more)
  let conversion := if conversion.head? = some 'L' then conversion.drop 1 else conversion
  if rest.isEmpty then throw ("format " ++ cited format ++ " has no % directive")
  match conversion with
  | [] => throw ("format " ++ cited format ++ " ends in %")
  | letter :: rest =>
      unless "efgaEFGA".contains letter do
        throw ("format " ++ cited format ++ " has unknown %" ++ letter.toString ++ " directive")
      let (back, rest) := literal rest
      unless rest.isEmpty do throw ("format " ++ cited format ++ " has too many % directives")
      return {
        front := String.ofList front
        style :=
          { left := flags.contains '-'
            plus := flags.contains '+'
            blank := flags.contains ' '
            zeros := flags.contains '0'
            alternative := flags.contains '#'
            width := Nat.ofDigitChars 10 width 0
            precision }
        letter
        back := String.ofList back }

/-! ## Progressions -/

/-- What is to be written. -/
structure Plan where
  first : Term := {}
  step : Term := {}
  last : Term

/-- The form that the terms of a plan have if none is asked for, perhaps all of one width. -/
def Plan.form (plan : Plan) (level : Bool) : Form :=
  match plan.first.places, plan.step.places, plan.last.places with
  | some a, some b, some c =>
      let places := max a b
      let adjusted (term : Term) (own : Int) : Int :=
        term.width + (places - own) +
          (if own = 0 && places ≠ 0 then 1 else 0)
      let last := adjusted plan.last c - if c ≠ 0 && places = 0 then 1 else 0
      let width := if level then max (adjusted plan.first a) last else 0
      { style := { zeros := level, width := width.toNat, precision := some places.toNat }
        letter := 'f' }
  | _, _, _ => { style := {}, letter := 'g' }

/-- A term that has a number of steps in front of it. -/
def Plan.term (plan : Plan) (steps : Nat) : Floating :=
  plan.first.value.plus .extended (plan.step.value.times .extended (.ofInt steps))

/-- Whether a number is beyond the bound. -/
def Plan.isBeyond (plan : Plan) (x : Floating) : Bool :=
  x.order? plan.last.value ==
    some (if plan.step.value.order? (.ofInt 0) == some .lt then .lt else .gt)

/-- Whether a number beyond the bound is written as the bound is, and not as the one before it. -/
def Plan.stillCounts (plan : Plan) (form : Form) (before x : Floating) : Bool :=
  let text := form.number x
  match Floating.read? .extended text with
  | some r =>
      r.rest = "" && r.value.order? plan.last.value == some .eq && text ≠ form.number before
  | none => false

/-- The texts of the terms from one on, with those in front of them, the latest first, as long as
    there is room; and whether that is all. -/
def Plan.textsFrom (plan : Plan) (form : Form) :
    (room : Nat) → (steps : Nat) → Floating → List String → List String × Bool
  | 0, _, _, texts => (texts, false)
  | room + 1, steps, x, texts =>
      let texts := form.text x :: texts
      let next := plan.term (steps + 1)
      if !plan.isBeyond next then textsFrom plan form room (steps + 1) next texts
      else if plan.stillCounts form x next then (form.text next :: texts, true)
      else (texts, true)

/-- The texts of the terms, as long as there is room, and whether that is all. -/
def Plan.texts (plan : Plan) (form : Form) (room : Nat) : List String × Bool :=
  let first := plan.first.value
  if plan.isBeyond first then ([], true)
  else
    let (texts, all) := plan.textsFrom form room 0 first []
    (texts.reverse, all)

/-- The integers from one up to another, if there is one, as long as there is room, and whether
    that is all. -/
def integers (first step : Nat) (last? : Option Nat) (room : Nat) : List String × Bool :=
  let count := match last? with
    | some last => (last + 1 - first + (step - 1)) / step
    | none => room + 1
  ((List.range (min count room)).map fun i => toString (first + i * step), count ≤ room)

/-- The natural number that digits are. -/
def digitsValue? (text : String) : Option Nat :=
  if text ≠ "" && text.toList.all Char.isDigit then some (Nat.ofDigitChars 10 text.toList 0)
  else none

/-- The natural number that a term without places is. -/
def Term.natural? (term : Term) : Option Nat :=
  match term.value with
  | .finite negative m p =>
      if negative || term.places ≠ some 0 then none
      else
        let (a, b) := Floating.scaledFraction 2 m p
        some (Floating.roundedQuotient a b)
  | _ => none

/-- The texts of a plan of integers that are not negative, with steps that are not large, as long
    as there is room, and whether that is all; as the operands are written, or as they are. -/
def Plan.integers? (plan : Plan) (operands : List String) (room : Nat) :
    Option (List String × Bool) := do
  let step ← plan.step.natural?
  if step = 0 || 200 < step then none
  else
    match operands.mapM digitsValue? with
    | some (first :: more) =>
        let last := more.getLastD first
        let first := if more.isEmpty then 1 else first
        if last < first then none else some (integers first step (some last) room)
    | _ =>
        let first ← plan.first.natural?
        match plan.last.value with
        | .infinite false => some (integers first step none room)
        | _ =>
            let last ← plan.last.natural?
            if last < first then none else some (integers first step (some last) room)

/-! ## Arguments -/

/-- Whether the value of an option is the next argument. -/
def takesNext (word : String) : Bool :=
  if word.startsWith "--" then "--separator".startsWith word || "--format".startsWith word
  else
    let behind := (word.toList.drop 1).dropWhile fun c => c ≠ 's' && c ≠ 'f'
    behind.length = 1

/-- Arguments in which negative numbers are no options. -/
def withNegatives : List String → List String
  | [] => []
  | word :: rest =>
      let numeric := (word.toList.drop 1).head?.any fun c => c.isDigit || c = '.'
      if !word.startsWith "-" || word = "-" || word = "--" then word :: rest
      else if numeric then "--" :: word :: rest
      else if takesNext word then
        match rest with
        | value :: more => word :: value :: withNegatives more
        | [] => [word]
      else word :: withNegatives rest

/-- What is wrong with operands. -/
def TermFault.words (fault : TermFault) (text : String) : String :=
  match fault with
  | .noNumber => "invalid floating point argument: " ++ quoted text
  | .nan => "invalid 'not-a-number' argument: " ++ quoted text

/-- The term that an operand is, or what is wrong with it. -/
def termOf (text : String) : Except String Term :=
  match Term.ofText text with
  | .ok term => .ok term
  | .error fault => .error (fault.words text)

/-- The plan that operands are, or what is wrong with them. -/
def Plan.ofOperands : List String → Except String Plan
  | [last] => return { last := ← termOf last }
  | [first, last] => return { first := ← termOf first, last := ← termOf last }
  | first :: step :: last :: _ => do
      let start ← termOf first
      let increment ← termOf step
      if increment.value.isZero then throw ("invalid Zero increment value: " ++ quoted step)
      return { first := start, step := increment, last := ← termOf last }
  | [] => throw "missing operand"

end Progressions

open Progressions in
/-- Writes the terms of a progression. -/
def progression : Tool := fun self arguments =>
  withUsage "+ w,equal-width s,separator= f,format=" self (withNegatives arguments) fun u => do
    if u.operands.isEmpty then misuse self "missing operand"
    else if let some extra := u.operands[3]? then misuse self ("extra operand " ++ quoted extra)
    else
      match (u.value? 'f').mapM Form.ofText with
      | .error message => fail self message
      | .ok form? =>
          let level := u.has 'w'
          if form?.isSome && level then
            misuse self "format string may not be specified when printing equal width strings"
          else
            match Plan.ofOperands u.operands with
            | .error message => misuse self message
            | .ok plan =>
                let space ← room
                let bound := space.getD 4000000
                let separator := (u.value? 's').getD "\n"
                let general (_ : Unit) : List String × Bool :=
                  plan.texts (form?.getD (plan.form level)) bound
                let (texts, all) :=
                  if level || form?.isSome || separator.length ≠ 1 then general ()
                  else (plan.integers? u.operands bound).getD (general ())
                let text := separator.intercalate texts
                finish 0
                if all then unless texts.isEmpty do emit (text ++ "\n")
                else
                  emit (text ++ separator)
                  unless space.isSome do waitForEver

end WasmBinary.Machine.Script.Tool
