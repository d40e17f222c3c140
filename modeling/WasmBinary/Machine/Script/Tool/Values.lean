/-
  Tools that compute and write values, and that wait.
-/
import WasmBinary.Machine.Script.Condition
import WasmBinary.Machine.Script.Format
import WasmBinary.Machine.Script.Regex.Matching
import WasmBinary.Machine.Script.Regex.Reading
import WasmBinary.Machine.Script.Tool.Basic

namespace WasmBinary.Machine.Script.Tool

open Run

/-! ## Expressions -/

namespace Expr

/-- What is left of an expression, and the word in front of it. -/
structure Words where
  rest : List String
  before : String := ""

/-- An evaluator of expressions, which fails with a message. -/
abbrev Evaluator := StateT Words (Except String)

/-- Takes the next word. -/
def next : Evaluator String := do
  let s ← get
  match s.rest with
  | word :: rest =>
      set (Words.mk rest word)
      return word
  | [] => throw ("syntax error: missing argument after " ++ cited s.before)

/-- Takes the next word if it is one of some. -/
def nextIf (words : List String) : Evaluator (Option String) := do
  match (← get).rest with
  | word :: _ => if words.contains word then some <$> next else return none
  | [] => return none

/-- The integer that a text is. -/
def integer? (text : String) : Option Int :=
  let (negative, cs) := match text.toList with
    | '-' :: rest => (true, rest)
    | cs => (false, cs)
  if cs.isEmpty || !cs.all Char.isDigit then none
  else
    let n : Int := Nat.ofDigitChars 10 cs 0
    some (if negative then -n else n)

/-- Whether a value counts as nothing. -/
def isNull (value : String) : Bool := value = "" || integer? value = some 0

/-- The integer that a value has to be. -/
def number (value : String) : Evaluator Int :=
  match integer? value with
  | some n => return n
  | none => throw "non-integer argument"

/-- What an expression matches at the front of a text: the first group, or how much it is. -/
def matched (text expression : String) : Evaluator String := do
  match Regex.parse .basic expression with
  | .error message => throw message
  | .ok (r, groups) =>
      let line : Regex.Line := { text := text.toList.toArray }
      match (Regex.Searcher.of line r).at? 0 with
      | none => return if 0 < groups then "" else "0"
      | some m => return if 0 < groups then m.group line 1 else toString m.last

/-- What an operator makes of two values. -/
def apply (operator a b : String) : Evaluator String := do
  let compared (test : Ordering → Bool) : String :=
    let order := match integer? a, integer? b with
      | some m, some n => compare m n
      | _, _ => compare a b
    if test order then "1" else "0"
  let divided (f : Int → Int → Int) : Evaluator String := do
    let m ← number a
    let n ← number b
    if n = 0 then throw "division by zero" else return toString (f m n)
  match operator with
  | "|" => return if !isNull a then a else if !isNull b then b else "0"
  | "&" => return if isNull a || isNull b then "0" else a
  | "<" => return compared (· == .lt)
  | "<=" => return compared (· != .gt)
  | "=" | "==" => return compared (· == .eq)
  | "!=" => return compared (· != .eq)
  | ">=" => return compared (· != .lt)
  | ">" => return compared (· == .gt)
  | "+" => return toString ((← number a) + (← number b))
  | "-" => return toString ((← number a) - (← number b))
  | "*" => return toString ((← number a) * (← number b))
  | "/" => divided Int.tdiv
  | "%" => divided Int.tmod
  | _ => matched a b

/-- The operators, the loosest first. -/
def levels : List (List String) :=
  [["|"], ["&"], ["<", "<=", "=", "==", "!=", ">=", ">"], ["+", "-"], ["*", "/", "%"], [":"]]

mutual

/-- An expression with the operators of some levels. -/
def expression : Nat → List (List String) → Evaluator String
  | 0, _ => return ""
  | n + 1, [] => operand n
  | n + 1, level :: tighter => do
      let a ← expression n tighter
      following n level tighter a

/-- What follows a left operand on a level. -/
def following : Nat → List String → List (List String) → String → Evaluator String
  | 0, _, _, a => return a
  | n + 1, level, tighter, a => do
      match ← nextIf level with
      | none => return a
      | some operator =>
          let b ← expression n tighter
          following n level tighter (← apply operator a b)

/-- A value, a function of values, or an expression in parentheses. -/
def operand : Nat → Evaluator String
  | 0 => return ""
  | n + 1 => do
      match ← next with
      | "(" =>
          let a ← expression n levels
          match (← get).rest with
          | ")" :: _ =>
              let _ ← next
              return a
          | [] => throw ("syntax error: expecting ')' after " ++ cited (← get).before)
          | word :: _ => throw ("syntax error: expecting ')' instead of " ++ cited word)
      | ")" => throw "syntax error: unexpected ')'"
      | "+" => next
      | "length" => return toString (← operand n).length
      | "match" =>
          let a ← operand n
          matched a (← operand n)
      | "index" =>
          let a ← operand n
          let set ← operand n
          return match a.toList.findIdx? fun c => set.contains c with
            | some i => toString (i + 1)
            | none => "0"
      | "substr" =>
          let a ← operand n
          let first := integer? (← operand n)
          let length := integer? (← operand n)
          return match first, length with
            | some i, some k =>
                if i ≤ 0 || k ≤ 0 then ""
                else String.ofList ((a.toList.drop (i.toNat - 1)).take k.toNat)
            | _, _ => ""
      | word => return word

end

/-- The value of an expression, or what is wrong with it. -/
def value (words : List String) : Except String String := do
  let (a, s) ← (expression (16 * words.length + 16) levels).run { rest := words }
  match s.rest with
  | [] => return a
  | word :: _ => throw ("syntax error: unexpected argument " ++ cited word)

end Expr

/-- Writes the value of an expression. -/
def evaluate : Tool := fun self arguments => do
  match if arguments.head? = some "--" then arguments.tail else arguments with
  | [] => misuse self "missing operand" 2
  | words =>
      match Expr.value words with
      | .ok value =>
          emit (value ++ "\n")
          finishWith !(Expr.isNull value)
      | .error text => fail self text 2

/-! ## Texts -/

/-- Writes the arguments, with escapes only where that is wanted. -/
def echo : Tool := fun _ arguments => do
  let isOption (word : String) : Bool :=
    1 < word.length && word.startsWith "-" && (word.toList.drop 1).all fun c => "neE".contains c
  let options := arguments.takeWhile isOption
  let letters := options.flatMap String.toList
  let words := arguments.drop options.length
  let last := letters.reverse.find? fun c => c = 'e' || c = 'E'
  let text := " ".intercalate words
  let (text, ended) := if last = some 'e' then Escape.resolve text else (text, false)
  emit (if ended || letters.contains 'n' then text else text ++ "\n")
  finish 0

/-- Writes the arguments as a format asks for. -/
def printf : Tool := fun self arguments => do
  match if arguments.head? = some "--" then arguments.tail else arguments with
  | [] => misuse self "missing operand"
  | format :: rest =>
      let printed := Format.print format rest
      for misfit in printed.misfits do
        say self (match misfit with
          | .noNumber argument => quoted argument ++ ": expected a numeric value"
          | .partly argument => quoted argument ++ ": value not completely converted"
          | .outOfRange argument => quoted argument ++ ": Numerical result out of range")
      emit printed.text
      match printed.failure with
      | some text => fail self (text.replace "invalid directive" "invalid conversion specification")
      | none => finishWith printed.misfits.isEmpty

/-- Succeeds where a condition holds. -/
def test : Tool := fun self arguments => do
  let condition := if baseName self = "[" then
      if arguments.getLast? = some "]" then some arguments.dropLast else none
    else some arguments
  match condition with
  | none => fail self "missing ']'" 2
  | some words => finishWith (← Condition.holds words)

/-- Tells variables that are passed on to programs. -/
def showEnvironment : Tool := fun self arguments =>
  withUsage "+ 0,null" self arguments (fun u => do
    let ending := if u.has '0' then "\x00" else "\n"
    let exported := (← shell).bindings.filter fun entry => entry.2.exported
    if u.operands.isEmpty then
      for (name, v) in exported.reverse do
        if let some value := v.value then emit (name ++ "=" ++ value ++ ending)
      finish 0
    else
      let values := u.operands.map fun name => (exported.lookup name).bind (·.value)
      for value in values.filterMap id do emit (value ++ ending)
      finishWith (values.all Option.isSome)) 2

/-! ## Time -/

/-- The milliseconds of a duration with a letter for its unit; none where it never ends. -/
def duration? (text : String) : Option (Option Nat) :=
  (Floating.read? .extended text).bind fun read =>
    let unit? := match read.rest with
      | "" | "s" => some 1
      | "m" => some 60
      | "h" => some 3600
      | "d" => some 86400
      | _ => none
    match unit?, read.value with
    | some _, .infinite false => some none
    | some unit, .finite false m power =>
        let (a, b) := Floating.fraction (.finite false m power)
        let micros := Floating.roundedQuotient (a * unit * 1000000) b
        some (some ((micros + 999) / 1000))
    | some _, .finite true 0 _ => some (some 0)
    | _, _ => none

/-- Waits. -/
def sleep : Tool := fun self arguments =>
  withUsage "" self arguments fun u => do
    let durations := u.operands.map duration?
    match u.operands.filter fun word => (duration? word).isNone with
    | word :: more =>
        say self ("invalid time interval " ++ quoted word)
        for word in more do say self ("invalid time interval " ++ quoted word)
        tell ("Try '" ++ self ++ " --help' for more information.\n")
        finish 1
    | [] =>
        if u.operands.isEmpty then misuse self "missing operand"
        else
          let all := durations.filterMap id
          if all.any Option.isNone then waitForEver
          else
            wait (sumOf (all.filterMap id))
            finish 0

end WasmBinary.Machine.Script.Tool
