/-
  The tool that numbers lines.

  1. **Pages** have a header, a body, and a footer, which lines with delimiters introduce.  The
     numbers start anew with each of them.

  2. **Styles** tell which lines of a part have numbers: all, those that are not empty, none, or
     those that fit an expression.

  3. **Numbers** stand in front of lines, with a separator behind them.
-/
import WasmBinary.Machine.Script.Regex.Matching
import WasmBinary.Machine.Script.Regex.Reading
import WasmBinary.Machine.Script.Tool.Basic

namespace WasmBinary.Machine.Script.Tool

open Run

namespace Numbering

/-- Which lines have numbers. -/
inductive Style
  | all
  | filled
  | none
  | fitting (r : Regex)

/-- A part of a page. -/
inductive Section
  | header
  | body
  | footer
deriving DecidableEq, Repr

/-- How a number stands in front of a line. -/
inductive Placing
  | left
  | right
  | zeros
deriving DecidableEq, Repr

/-- Which lines have numbers, and how these are written. -/
structure Settings where
  header : Style := .none
  body : Style := .filled
  footer : Style := .none
  delimiter : String := "\\:"
  first : Int := 1
  step : Int := 1
  width : Nat := 6
  placing : Placing := .right
  between : String := "\t"
  /-- How many empty lines count as one. -/
  joined : Nat := 1
  /-- Whether the numbers go on from one part to the next. -/
  goesOn : Bool := false

/-- The style that a text stands for. -/
def Style.ofText (part text : String) : Except Misuse Style :=
  match text.toList with
  | 'a' :: _ => .ok .all
  | 't' :: _ => .ok .filled
  | 'n' :: _ => .ok .none
  | 'p' :: expression =>
      match Regex.parse .basic (String.ofList expression) with
      | .ok (r, _) => .ok (.fitting r)
      | .error fault => .error (.plain fault)
  | _ => .error (.hinted ("invalid " ++ part ++ " numbering style: " ++ quoted text))

/-- The whole number that a text is, with or without a sign. -/
def wholeOr (what text : String) : Except Misuse Int := do
  match text.toList with
  | '-' :: c :: rest =>
      if c.isDigit then
        match amount "" (String.ofList (c :: rest)) with
        | .ok n => if n ≤ Nat.pow 2 63 then return -(n : Int) else wrong AmountFault.tooLarge.ending
        | .error fault => wrong fault.ending
      else wrong ""
  | _ => return ((← amountOr what "" text 0 (Nat.pow 2 63 - 1)) : Nat)
where
  /-- What is told about a text that is no number. -/
  wrong (ending : String) : Except Misuse Int :=
    .error (.plain (what ++ ": " ++ quoted text ++ ending))

/-- Takes an option into account. -/
def Settings.add (s : Settings) (option : Given) : Except Misuse Settings := do
  let value := option.value
  match option.key with
  | "b" => return { s with body := ← Style.ofText "body" value }
  | "h" => return { s with header := ← Style.ofText "header" value }
  | "f" => return { s with footer := ← Style.ofText "footer" value }
  | "d" => return { s with delimiter := if value.length = 1 then value ++ ":" else value }
  | "v" => return { s with first := ← wholeOr "invalid starting line number" value }
  | "i" => return { s with step := ← wholeOr "invalid line number increment" value }
  | "l" =>
      return { s with
        joined := ← amountOr "invalid line number of blank lines" "" value 1 (Nat.pow 2 63 - 1) }
  | "w" =>
      return { s with
        width := ← amountOr "invalid line number field width" "" value 1 (Nat.pow 2 31 - 1) }
  | "n" =>
      match value with
      | "ln" => return { s with placing := .left }
      | "rn" => return { s with placing := .right }
      | "rz" => return { s with placing := .zeros }
      | _ => throw (.hinted ("invalid line numbering format: " ++ quoted value))
  | "p" => return { s with goesOn := true }
  | "s" => return { s with between := value }
  | _ => return s

/-- Where in a page the tool is, the next number, and how many empty lines there were. -/
structure State where
  part : Section := .body
  number : Int
  empty : Nat := 0

/-- A number as it stands in front of a line. -/
def Settings.numberText (s : Settings) (n : Int) : String :=
  let digits := toString n.natAbs
  let sign := if n < 0 then "-" else ""
  let bare := sign ++ digits
  match s.placing with
  | .left => filled s.width bare
  | .right => "".pushn ' ' (s.width - bare.length) ++ bare
  | .zeros => sign ++ "".pushn '0' (s.width - bare.length) ++ digits

/-- The part that a line introduces. -/
def Settings.sectionOf? (s : Settings) (line : String) : Option Section :=
  let d := s.delimiter
  if d = "" then none
  else if line = d ++ d ++ d then some .header
  else if line = d ++ d then some .body
  else if line = d then some .footer
  else none

/-- The style for a part. -/
def Settings.styleOf (s : Settings) : Section → Style
  | .header => s.header
  | .body => s.body
  | .footer => s.footer

/-- What becomes of a line. -/
def Settings.line (s : Settings) (state : State) (line : String) : String × State :=
  match s.sectionOf? line with
  | some found =>
      ("\n", { state with
        part := found, number := if s.goesOn then state.number else s.first })
  | none =>
      let numbered : String × State :=
        (s.numberText state.number ++ s.between ++ line ++ "\n",
          { state with number := state.number + s.step, empty := 0 })
      let plain : String × State :=
        ("".pushn ' ' (s.width + s.between.length) ++ line ++ "\n", state)
      match s.styleOf state.part with
      | .all =>
          if line ≠ "" || s.joined ≤ state.empty + 1 then numbered
          else (plain.1, { state with empty := state.empty + 1 })
      | .filled => if line = "" then plain else numbered
      | .none => plain
      | .fitting r =>
          if (Regex.Searcher.of { text := line.toList.toArray } r).found then numbered else plain

/-- What becomes of lines. -/
def Settings.lines (s : Settings) : State → List String → List String × State
  | state, [] => ([], state)
  | state, line :: rest =>
      let (shown, state) := s.line state line
      let (others, state) := s.lines state rest
      (shown :: others, state)

end Numbering

/-- Numbers lines. -/
def numberLines : Tool := fun self arguments =>
  withSettings ("h,header-numbering= b,body-numbering= f,footer-numbering= " ++
      "v,starting-line-number= i,line-increment= p,no-renumber l,join-blank-lines= " ++
      "s,number-separator= w,number-width= n,number-format= d,section-delimiter=")
    {} Numbering.Settings.add self arguments
    fun s operands => do
      let texts ← (orInput operands).mapM fun path => do
        match ← readOperand path .flow with
        | .ok text => return some text
        | .error fault =>
            say self (shown path ++ ": " ++ fault.words)
            return none
      let all := (texts.filterMap id).flatMap (recordsOf '\n')
      emit (String.join (s.lines { number := s.first } all).1)
      finishWith (texts.all Option.isSome)

end WasmBinary.Machine.Script.Tool
