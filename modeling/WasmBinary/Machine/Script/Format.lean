/-
  Writing arguments as a format asks for.

  1. **Escapes** — a backslash and a letter stand for a control character, and a backslash and up to
     three octal digits for a byte.  Any other backslash stands for itself.  In an argument the
     octal digits can follow a zero, and `\c` ends all that is written.

  2. **A format** is made of directives: text, and conversions, each of which takes an argument.
     Widths and precisions may be taken from arguments as well.

  3. **Writing** goes through the format again and again, as long as there are arguments.  An
     argument that is missing counts as empty or zero.  One that is no number is complained about,
     and what is a number in front of it counts.

  4. **The end** comes early when an argument says so, or when a directive is none.
-/
import WasmBinary.Machine.Script.Floating

namespace WasmBinary.Machine.Script.Escape

/-- Whether a character is an octal digit. -/
def isOctal (c : Char) : Bool := '0' ≤ c && c ≤ '7'

/-- The byte of octal digits. -/
def octal (digits : List Char) : Char := Char.ofNat (Nat.ofDigitChars 8 digits 0 % 256)

/-- The character that a letter behind a backslash stands for. -/
def ofLetter? : Char → Option Char
  | 'a' => some '\x07'
  | 'b' => some '\x08'
  | 'e' => some '\x1b'
  | 'f' => some '\x0c'
  | 'n' => some '\n'
  | 'r' => some '\x0d'
  | 't' => some '\t'
  | 'v' => some '\x0b'
  | '\\' => some '\\'
  | _ => none

/-- The character of an escape, behind its backslash, and what follows it. -/
def character : List Char → Char × List Char
  | [] => ('\\', [])
  | c :: rest =>
      match ofLetter? c with
      | some c => (c, rest)
      | none =>
          let digits := ((c :: rest).take 3).takeWhile isOctal
          if digits.isEmpty then ('\\', c :: rest)
          else (octal digits, (c :: rest).drop digits.length)

/-- The text of characters of which each escape takes at least one, and whether it was ended. -/
def resolveWithin : Nat → List Char → List Char × Bool
  | 0, _ => ([], false)
  | _, [] => ([], false)
  | n + 1, '\\' :: rest =>
      match rest with
      | 'c' :: _ => ([], true)
      | '0' :: digit :: _ =>
          let (c, rest) := character (if isOctal digit then rest.drop 1 else rest)
          let (text, ended) := resolveWithin n rest
          (c :: text, ended)
      | _ =>
          let (c, rest) := character rest
          let (text, ended) := resolveWithin n rest
          (c :: text, ended)
  | n + 1, c :: rest =>
      let (text, ended) := resolveWithin n rest
      (c :: text, ended)

/-- A text with its escapes resolved, and whether all that is written ends there. -/
def resolve (text : String) : String × Bool :=
  let (cs, ended) := resolveWithin text.length text.toList
  (String.ofList cs, ended)

end WasmBinary.Machine.Script.Escape

namespace WasmBinary.Machine.Script.Format

/-- How wide or how precise a conversion is. -/
inductive Extent
  | fixed (n : Nat)
  /-- As an argument says. -/
  | taken
deriving DecidableEq, Repr

/-- A conversion of an argument. -/
structure Conversion where
  flags : List Char
  width : Option Extent
  precision : Option Extent
  letter : Char
deriving DecidableEq, Repr

/-- A piece of a format. -/
inductive Directive
  | text (text : String)
  | conversion (conversion : Conversion)
  /-- What is no directive, and what is said about it. -/
  | broken (message : String)
deriving DecidableEq, Repr

/-! ## Reading formats -/

/-- The extent in front, if there is one, and what follows it. -/
def extent? (cs : List Char) : Option Extent × List Char :=
  match cs with
  | '*' :: rest => (some .taken, rest)
  | cs =>
      let digits := cs.takeWhile Char.isDigit
      (if digits.isEmpty then none else some (.fixed (Nat.ofDigitChars 10 digits 0)),
        cs.drop digits.length)

/-- The letters of conversions. -/
def letters : List Char := "bcsdiouxXeEfFgGaA".toList

/-- The conversion behind a percent sign, and what follows it. -/
def conversion (cs : List Char) : Directive × List Char :=
  let flags := cs.takeWhile fun c => [ '#', '-', '+', ' ', '0' ].contains c
  let (width, rest) := extent? (cs.drop flags.length)
  let (precision, rest) := match rest with
    | '.' :: more =>
        let (n, rest) := extent? more
        (some (n.getD (.fixed 0)), rest)
    | _ => (none, rest)
  match rest with
  | [] => (.broken "missing format character", [])
  | letter :: rest =>
      if letters.contains letter then (.conversion ⟨flags, width, precision, letter⟩, rest)
      else
        let source := String.ofList ('%' :: cs.take (cs.length - rest.length))
        (.broken (source ++ ": invalid directive"), rest)

/-- The directives of a format. -/
def directivesWithin : Nat → List Char → List Directive
  | 0, _ | _, [] => []
  | n + 1, '\\' :: rest =>
      let (c, rest) := Escape.character rest
      .text c.toString :: directivesWithin n rest
  | n + 1, '%' :: '%' :: rest => .text "%" :: directivesWithin n rest
  | n + 1, '%' :: rest =>
      let (directive, rest) := conversion rest
      directive :: directivesWithin n rest
  | n + 1, c :: rest =>
      let more := rest.takeWhile fun c => c ≠ '\\' && c ≠ '%'
      .text (String.ofList (c :: more)) :: directivesWithin n (rest.drop more.length)

/-- The directives of a format. -/
def directives (format : String) : List Directive := directivesWithin format.length format.toList

/-! ## Writing -/

/-- What can be wrong with an argument that is to be a number. -/
inductive Misfit
  | noNumber (argument : String)
  /-- Only the front is a number. -/
  | partly (argument : String)
  | outOfRange (argument : String)
deriving DecidableEq, Repr

/-- What is said about an argument. -/
def Misfit.message : Misfit → String
  | noNumber argument => argument ++ ": expected numeric value"
  | partly argument => argument ++ ": not completely converted"
  | outOfRange argument => argument ++ ": Numerical result out of range"

/-- How far writing has come. -/
structure Printing where
  arguments : List String
  /-- What was written, the latest piece first. -/
  pieces : List String := []
  /-- The arguments that do not fit, the latest first. -/
  misfits : List Misfit := []

/-- How writing goes on. -/
inductive Progress
  | more
  | ended
  | broken (message : String)
deriving DecidableEq, Repr

/-- A writer. -/
abbrev Printer := StateM Printing

/-- The next argument, if there is one. -/
def next? : Printer (Option String) := do
  let s ← get
  set { s with arguments := s.arguments.tail }
  return s.arguments.head?

/-- Writes a text. -/
def put (text : String) : Printer Unit :=
  modify fun s => { s with pieces := text :: s.pieces }

/-- Notes that an argument does not fit. -/
def note (misfit : Misfit) : Printer Unit :=
  modify fun s => { s with misfits := misfit :: s.misfits }

/-- Notes an argument that is no number, unless it is empty. -/
def noteNoNumber (argument : String) : Printer Unit := do
  unless argument = "" do note (.noNumber argument)

/-- Notes an argument with something behind its number, or with a number that is out of range. -/
def noteRest (argument rest : String) (outOfRange : Bool) : Printer Unit := do
  if rest ≠ "" then note (.partly argument)
  else if outOfRange then note (.outOfRange argument)

/-- The character that a quoted argument stands for. -/
def quoted? (argument : String) : Option Nat :=
  match argument.toList with
  | '"' :: rest | '\'' :: rest => some ((rest.head?.map Char.toNat).getD 0)
  | _ => none

/-- The next argument as an integer between two bounds.  A negative number wraps around where
    there are none. -/
def integer (least greatest : Int) : Printer Int := do
  match ← next? with
  | none => return 0
  | some argument =>
      match quoted? argument with
      | some n => return n
      | none =>
          match Numeral.integer? argument with
          | none =>
              noteNoNumber argument
              return 0
          | some (value, rest) =>
              let wrapped :=
                if least = 0 && value.natAbs < Nat.pow 2 64 then value % Nat.pow 2 64 else value
              let within := min greatest (max least wrapped)
              noteRest argument rest (within ≠ wrapped)
              return within

/-- The next argument as an integer with a sign. -/
def signed : Printer Int := integer (-Nat.pow 2 63) (Nat.pow 2 63 - 1)

/-- The next argument as an integer without a sign. -/
def natural : Printer Nat := return (← integer 0 (Nat.pow 2 64 - 1)).toNat

/-- The next argument as a double. -/
def double : Printer Floating := do
  match ← next? with
  | none => return .ofInt 0
  | some argument =>
      match quoted? argument, Floating.read? .double argument with
      | some n, _ => return .ofInt n
      | none, none =>
          noteNoNumber argument
          return .ofInt 0
      | none, some r =>
          noteRest argument r.rest r.outOfRange
          return r.value

/-- The number that an extent is. -/
def measure : Option Extent → Printer (Option Int)
  | none => return none
  | some (.fixed n) => return some n
  | some .taken => some <$> signed

/-- The style of a conversion.  A negative width is one on the left, and a negative precision is
    none. -/
def style (c : Conversion) : Printer Numeral.Style := do
  let width := (← measure c.width).getD 0
  let precision := (← measure c.precision).bind fun n => if n < 0 then none else some n.toNat
  return {
    left := c.flags.contains '-' || width < 0
    plus := c.flags.contains '+'
    blank := c.flags.contains ' '
    zeros := c.flags.contains '0'
    alternative := c.flags.contains '#'
    width := width.natAbs
    precision }

/-- A text up to the precision of a style. -/
def cut (style : Numeral.Style) (text : String) : String :=
  match style.precision with
  | some n => String.ofList (text.toList.take n)
  | none => text

/-- Writes one directive. -/
def step : Directive → Printer Progress
  | .text text => do
      put text
      return .more
  | .broken message => return .broken message
  | .conversion c => do
      let style ← style c
      match c.letter with
      | 's' =>
          put (style.fill (cut style ((← next?).getD "")))
          return .more
      | 'b' =>
          let (text, ended) := Escape.resolve ((← next?).getD "")
          put (style.fill (cut style text))
          return if ended then .ended else .more
      | 'c' =>
          let c := (((← next?).getD "").toList.head?).getD (Char.ofNat 0)
          put (style.fill c.toString)
          return .more
      | 'd' | 'i' =>
          put (style.integer (← signed))
          return .more
      | 'o' | 'u' | 'x' | 'X' =>
          put (style.natural c.letter (← natural))
          return .more
      | letter =>
          put ((← double).text .double style letter)
          return .more

/-- Writes directives one after the other. -/
def once : List Directive → Printer Progress
  | [] => return .more
  | directive :: rest => do
      match ← step directive with
      | .more => once rest
      | progress => return progress

/-- Writes directives again as long as there are arguments for them. -/
def rounds (ds : List Directive) : Nat → Printer Progress
  | 0 => return .more
  | n + 1 => do
      let before := (← get).arguments.length
      match ← once ds with
      | .more =>
          let left := (← get).arguments.length
          if left = 0 || left = before then return .more else rounds ds n
      | progress => return progress

/-- What a format and its arguments come to. -/
structure Printed where
  text : String
  misfits : List Misfit
  /-- Why the format could not be followed to its end. -/
  failure : Option String

/-- Writes arguments as a format asks for. -/
def print (format : String) (arguments : List String) : Printed :=
  let (progress, s) := rounds (directives format) (arguments.length + 1) |>.run { arguments }
  { text := String.join s.pieces.reverse
    misfits := s.misfits.reverse
    failure := match progress with
      | .broken message => some message
      | _ => none }

end WasmBinary.Machine.Script.Format
