/-
  Reading regular expressions.

  1. **Dialects** — in some dialects parentheses, braces and bars are active by themselves, in
     others behind a backslash.  They also differ in what they make of an operator that has nothing
     to work on, and in where a circumflex or a dollar sign is active.

  2. **Tokens** are taken from the front, one at a time.

  3. **Mistakes** are told in fixed words.
-/
import WasmBinary.Machine.Script.Regex.Basic

namespace WasmBinary.Machine.Script.Regex

/-- The fault of a set that is not closed. -/
def openSet : String := "Unmatched [, [^, [:, [., or [="

/-- What becomes of a repetition that has nothing in front of it. -/
inductive Leading
  | literal
  | skipped
  | refused
deriving DecidableEq, Repr

/-- How expressions are written. -/
structure Dialect where
  /-- Parentheses, braces and bars are active without a backslash. -/
  bare : Bool
  /-- Plus signs and question marks are active without a backslash. -/
  barePlus : Bool := bare
  /-- Bars, plus signs and question marks can be active. -/
  choices : Bool := true
  /-- Braces can be active. -/
  braces : Bool := true
  /-- Circumflexes and dollar signs are active everywhere. -/
  anywhere : Bool := bare
  leading : Leading := .literal
  /-- A repetition is neither repeated, nor can it start with a brace. -/
  single : Bool := false
  /-- A closing parenthesis may stand alone. -/
  loneClose : Bool := false
  /-- Braces that hold no repetition stand for themselves. -/
  loneBrace : Bool := false
  /-- Digits behind a backslash ask for groups. -/
  references : Bool := true
  /-- Some letters behind a backslash mean sets or places. -/
  letters : Bool := true
  /-- The end of a line stands for a bar. -/
  lineBar : Bool := false
  /-- A range may be empty. -/
  emptyRanges : Bool := false
  /-- Letters and digits behind a backslash stand for characters, also in sets. -/
  escapes : Bool := false
  /-- No alternative may be empty. -/
  filled : Bool := false
  /-- Whether a point, and a negated set, mean the end of a line as well. -/
  pointLineEnd : Bool := true
  negatedLineEnd : Bool := true

namespace Dialect

/-- The basic notation. -/
def basic : Dialect := { bare := false, single := true }

/-- The basic notation where repetitions can be repeated. -/
def loose : Dialect :=
  { bare := false, lineBar := true, negatedLineEnd := false }

/-- The extended notation. -/
def extended : Dialect := { bare := true, leading := .refused }

/-- The extended notation where a repetition without anything in front of it is left out. -/
def lenient : Dialect :=
  { bare := true, leading := .skipped, loneClose := true, loneBrace := true, lineBar := true
    negatedLineEnd := false }

/-- The notation of programs that work on records. -/
def records : Dialect :=
  { bare := true, leading := .refused, loneClose := true, loneBrace := true, references := false
    letters := false, escapes := true, filled := true }

/-- The notation of editors: groups and bars need a backslash, plus signs and question marks do
    not, and there are no braces. -/
def editors : Dialect :=
  { bare := false, barePlus := true, braces := false, emptyRanges := true }

end Dialect

/-- What is left to read. -/
structure Source where
  rest : List Char
  /-- How many groups there are so far, and which of them are closed. -/
  groups : Nat := 0
  closed : List Nat := []
  /-- Whether a circumflex here is active. -/
  fresh : Bool := true

/-- A reader of an expression. -/
abbrev Reader := EStateM String Source

/-! ## Tokens -/

/-- What stands in front. -/
inductive Token
  | char (c : Char)
  | same (n : Nat)
  | opening
  | closing
  | bar
  | star
  | plus
  | question
  | openBrace
  | closeBrace
  | dot
  | bracket
  /-- A place. -/
  | place (r : Regex)
  /-- A set that a letter stands for. -/
  | letter (r : Regex)
  /-- A backslash at the end. -/
  | loose
  | nothing
deriving Inhabited

namespace Token

/-- Whether a token is a repetition. -/
def repeats : Token → Bool
  | star | plus | question | openBrace => true
  | _ => false

/-- What a letter behind a backslash means. -/
def ofLetter? (c : Char) : Option Token :=
  match c with
  | 'w' => some (.letter (.set false [.named "word"]))
  | 'W' => some (.letter (.set true [.named "word"]))
  | 's' => some (.letter (.set false [.named "space"]))
  | 'S' => some (.letter (.set true [.named "space"]))
  | 'b' => some (.place (.border true true))
  | '<' => some (.place (.border true false))
  | '>' => some (.place (.border false true))
  | 'B' => some (.place .noBorder)
  | '\'' => some (.place (.back false))
  | c => if c.toNat = 0x60 then some (.place (.front false)) else none

/-- The character that a letter stands for behind a backslash, or that up to three digits stand for,
    and how many characters that takes. -/
def ofEscape (c : Char) (rest : List Char) : Char × Nat :=
  let isOctal (c : Char) : Bool := '0' ≤ c && c ≤ '7'
  if isOctal c then
    let digits := (c :: rest.take 2).takeWhile isOctal
    (Char.ofNat (digits.foldl (fun n c => 8 * n + (c.toNat - 48)) 0 % 256), digits.length)
  else
    let d := match c with
      | 'a' => '\x07'
      | 'b' => '\x08'
      | 'f' => '\x0c'
      | 'n' => '\n'
      | 'r' => '\x0d'
      | 't' => '\t'
      | 'v' => '\x0b'
      | c => c
    (d, 1)

/-- What a character means behind a backslash. -/
def escaped (d : Dialect) (c : Char) : Token :=
  let opens := Char.ofNat 0x7b
  if c = '|' then if d.choices && !d.bare then .bar else .char c
  else if c.isDigit && c != '0' && d.references then .same (c.toNat - 48)
  else if c = '(' then if d.bare then .char c else .opening
  else if c = ')' then if d.bare then .char c else .closing
  else if c = '+' then if d.choices && !d.barePlus then .plus else .char c
  else if c = '?' then if d.choices && !d.barePlus then .question else .char c
  else if c = opens then if d.braces && !d.bare then .openBrace else .char c
  else if c = Char.ofNat 0x7d then if d.braces && !d.bare then .closeBrace else .char c
  else if d.letters then (ofLetter? c).getD (.char c)
  else .char c

/-- What a character means by itself, apart from circumflexes and dollar signs. -/
def plain (d : Dialect) (c : Char) : Token :=
  match c with
  | '*' => .star
  | '.' => .dot
  | '[' => .bracket
  | '|' => if d.choices && d.bare then .bar else .char c
  | '+' => if d.choices && d.barePlus then .plus else .char c
  | '?' => if d.choices && d.barePlus then .question else .char c
  | '(' => if d.bare then .opening else .char c
  | ')' => if d.bare then .closing else .char c
  | '\n' => if d.lineBar then .bar else .char c
  | c =>
      if d.braces && d.bare && c.toNat = 0x7b then .openBrace
      else if d.braces && d.bare && c.toNat = 0x7d then .closeBrace
      else .char c

/-- Whether what follows a dollar sign makes it active. -/
def endsHere (d : Dialect) (rest : List Char) : Bool :=
  let token := match rest with
    | '\\' :: c :: _ => escaped d c
    | c :: _ => plain d c
    | [] => .nothing
  match token with
  | .bar | .closing | .nothing => true
  | _ => false

/-- The token in front, and how long it is. -/
def next (d : Dialect) (s : Source) : Token × Nat :=
  match s.rest with
  | [] => (.nothing, 0)
  | ['\\'] => (if d.escapes then .char '\\' else .loose, 1)
  | '\\' :: c :: rest =>
      if d.escapes then
        let (c, width) := ofEscape c rest
        (.char c, width + 1)
      else (escaped d c, 2)
  | '^' :: _ => (if d.anywhere || s.fresh then .place (.front true) else .char '^', 1)
  | '$' :: rest => (if d.anywhere || endsHere d rest then .place (.back true) else .char '$', 1)
  | c :: _ => (plain d c, 1)

end Token

/-- The token in front. -/
def peek (d : Dialect) : Reader Token := return (Token.next d (← get)).1

/-- Takes so many characters. -/
def drop (n : Nat) : Reader Unit :=
  modify fun s => { s with rest := s.rest.drop n, fresh := false }

/-- Takes the token in front. -/
def skip (d : Dialect) : Reader Unit := do
  let (token, n) := Token.next d (← get)
  drop n
  match token with
  | .opening | .bar => modify fun s => { s with fresh := true }
  | _ => return

/-! ## Sets -/

/-- A member of a set, before it is known whether a range starts with it. -/
inductive Element
  | single (c : Char)
  | named (name : String)
  | same (c : Char)

/-- The name between a kind of mark and a closing bracket. -/
def nameBefore (mark : Char) : Nat → List Char → List Char → Reader String
  | 0, _, _ => throw openSet
  | n + 1, seen, rest =>
      match rest with
      | [] => throw openSet
      | c :: more =>
          if c = mark && more.head? = some ']' then do
            modify fun s => { s with rest := more.drop 1 }
            return String.ofList seen.reverse
          else nameBefore mark n (c :: seen) more

/-- The member in front. -/
def element (d : Dialect) (hyphen : Bool) : Reader Element := do
  let s ← get
  let named (mark : Char) (rest : List Char) : Reader String :=
    if rest.isEmpty then throw openSet else nameBefore mark 32 [] rest
  let only (name : String) : Reader Char :=
    match name.toList with
    | [c] => return c
    | _ => throw "Invalid collation character"
  match s.rest with
  | [] => throw openSet
  | '[' :: ':' :: rest => return .named (← named ':' rest)
  | '[' :: '.' :: rest => return .single (← only (← named '.' rest))
  | '[' :: '=' :: rest => return .same (← only (← named '=' rest))
  | '-' :: rest =>
      if !hyphen && rest.head? ≠ some ']' && !d.escapes then throw "Invalid range end"
      else
        drop 1
        return .single '-'
  | c :: rest =>
      match c, rest, d.escapes with
      | '\\', e :: more, true =>
          let (c, width) := Token.ofEscape e more
          drop (width + 1)
          return .single c
      | _, _, _ =>
          drop 1
          return .single c

/-- The names of the classes that a set can have. -/
def classNames : List String :=
  ["alpha", "digit", "alnum", "upper", "lower", "space", "blank", "punct", "print", "graph",
    "cntrl", "xdigit"]

/-- The members of a set up to its closing bracket. -/
def members (d : Dialect) : Nat → (first : Bool) → Reader (List Pattern.Member)
  | 0, _ => throw openSet
  | n + 1, first => do
      if !first && (← get).rest.head? = some ']' then
        drop 1
        return []
      let a ← element d first
      let rest := (← get).rest
      let here ← match a with
        | .named name =>
            if classNames.contains name then pure (Pattern.Member.named name)
            else throw "Invalid character class name"
        | .same c => pure (Pattern.Member.range c c)
        | .single c =>
            match rest with
            | [] => throw openSet
            | ['-'] => throw openSet
            | '-' :: ']' :: _ => pure (Pattern.Member.range c c)
            | '-' :: _ => do
                drop 1
                match ← element d true with
                | .single last =>
                    if last < c && !d.emptyRanges then throw "Invalid range end"
                    else pure (Pattern.Member.range c last)
                | _ => throw "Invalid range end"
            | _ => pure (Pattern.Member.range c c)
      if (← get).rest.isEmpty then throw openSet
      return here :: (← members d n false)

/-- The set behind an opening bracket. -/
def setReader (d : Dialect) : Reader Regex := do
  let negated := (← get).rest.head? = some '^'
  if negated then drop 1
  if (← get).rest.isEmpty then throw "Invalid regular expression"
  let found ← members d ((← get).rest.length + 1) true
  return .set negated (if negated && !d.negatedLineEnd then .range '\n' '\n' :: found else found)

/-! ## Repetitions -/

/-- The most times that can be asked for. -/
def mostTimes : Nat := 32767

/-- The number in front, up to a comma or a closing brace: nothing if there is no digit, or no
    number at all. -/
def times (d : Dialect) : Nat → Option (Option Nat) → Reader (Option (Option Nat) × Token)
  | 0, found => return (found, .nothing)
  | n + 1, found => do
      let token ← peek d
      match token with
      | .nothing => return (none, token)
      | .closeBrace | .char ',' => return (found, token)
      | .char c =>
          skip d
          times d n (if c.isDigit then
              found.map fun k => some (min (mostTimes + 1) (k.getD 0 * 10 + (c.toNat - 48)))
            else none)
      | _ =>
          skip d
          times d n none

/-- The repetition of an expression that the token in front asks for, or nothing if it stands for
    itself. -/
def repetition (d : Dialect) (r : Regex) : Reader (Option Regex) := do
  let before ← get
  let token ← peek d
  skip d
  match token with
  | .star => return some (.repeated r 0 none true)
  | .plus => return some (.repeated r 1 none true)
  | .question => return some (.repeated r 0 (some 1) true)
  | _ =>
      let fuel := before.rest.length + 1
      let (least, behind) ← times d fuel (some none)
      let comma := match behind with
        | .char ',' => true
        | _ => false
      let (most, behind) ←
        if least.isSome && comma then do
          skip d
          times d fuel (some none)
        else pure (least, behind)
      let closes := match behind with
        | .closeBrace => true
        | _ => false
      match least, most, comma with
      | some none, _, false => throw "Invalid content of \\\x7b\\\x7d"
      | some least, some most, comma =>
          let least := least.getD 0
          let tooFew := comma && most.any fun m => decide (m < least)
          if tooFew || !closes then throw "Invalid content of \\\x7b\\\x7d"
          else if mostTimes < most.getD least then throw "Regular expression too big"
          else
            skip d
            return some (.repeated r least (if comma then most else some least) true)
      | _, _, _ =>
          if d.loneBrace then
            MonadStateOf.set before
            return none
          else
            match behind with
            | .nothing => throw "Unmatched \\\x7b"
            | _ => throw "Invalid content of \\\x7b\\\x7d"

/-- The repetitions behind an expression.  The flag tells that a brace stands for itself. -/
def repetitions (d : Dialect) : Nat → Regex → Reader (Regex × Bool)
  | 0, r => return (r, false)
  | n + 1, r => do
      if (← peek d).repeats then
        match ← repetition d r with
        | none => return (r, true)
        | some r =>
            let again ← peek d
            let twice := match again with
              | .star | .openBrace => true
              | _ => false
            if d.single && twice then throw "Invalid preceding regular expression"
            else repetitions d n r
      else return (r, false)

/-! ## Expressions -/

/-- The fault of a parenthesis that is not closed. -/
def openGroup : String := "Unmatched ( or \\("

/-- The fault of a parenthesis that was not opened. -/
def closedGroup : String := "Unmatched ) or \\)"

/-- The fault of an operator that has nothing to work on. -/
def noOperand : String := "Invalid preceding regular expression"

mutual

/-- Alternatives. -/
def alternatives (d : Dialect) : Nat → (nested : Bool) → Reader Regex
  | 0, _ => return .empty
  | n + 1, nested => do
      if d.filled then
        match ← peek d, nested with
        | .bar, _ | .closing, true => throw noOperand
        | .nothing, false => throw noOperand
        | _, _ => pure ()
      let a ← sequence d n nested false
      match ← peek d with
      | .bar =>
          skip d
          return .alt a (← alternatives d n nested)
      | _ => return a

/-- Expressions one after the other.  The flag tells that the brace in front stands for itself. -/
def sequence (d : Dialect) : Nat → (nested brace : Bool) → Reader Regex
  | 0, _, _ => return .empty
  | n + 1, nested, brace => do
      match ← peek d with
      | .bar | .nothing => return .empty
      | .closing =>
          if nested then return .empty
          else
            let (a, _) ← item d n .closing false
            let (a, brace) ← repetitions d ((← get).rest.length + 1) a
            return .seq a (← sequence d n nested brace)
      | token =>
          let (a, repeatable) ← item d n token brace
          let (a, brace) ← if repeatable then repetitions d ((← get).rest.length + 1) a
            else pure (a, false)
          return .seq a (← sequence d n nested brace)

/-- A single expression, and whether it can be repeated. -/
def item (d : Dialect) : Nat → Token → (brace : Bool) → Reader (Regex × Bool)
  | 0, _, _ => return (.empty, false)
  | n + 1, token, brace => do
      match token with
      | .opening =>
          skip d
          let number := (← get).groups + 1
          modify fun s => { s with groups := number }
          let r ← alternatives d n true
          match ← peek d with
          | .closing =>
              skip d
              modify fun s => { s with closed := number :: s.closed }
              return (.group number r, true)
          | _ => throw openGroup
      | .bracket =>
          skip d
          return (← setReader d, true)
      | .same k =>
          if !(← get).closed.contains k then throw "Invalid back reference"
          else
            skip d
            return (.same k, true)
      | .loose => throw "Trailing backslash"
      | .dot =>
          skip d
          return (.any d.pointLineEnd, true)
      | .place r =>
          skip d
          return (r, false)
      | .letter r =>
          skip d
          return (r, true)
      | .char c =>
          skip d
          return (.char c, true)
      | .closeBrace =>
          skip d
          return (.char (Char.ofNat 0x7d), true)
      | .closing =>
          if !d.loneClose then throw closedGroup
          skip d
          return (.char ')', true)
      | token =>
          let c := match token with
            | .star => '*'
            | .plus => '+'
            | .question => '?'
            | _ => Char.ofNat 0x7b
          let opens := match token with
            | .openBrace => true
            | _ => false
          if brace then
            skip d
            return (.char c, true)
          else if opens && d.single then throw noOperand
          else
            match d.leading with
            | .refused => throw noOperand
            | .skipped =>
                skip d
                match ← peek d with
                | .bar | .nothing => return (.empty, false)
                | token => item d n token false
            | .literal =>
                skip d
                return (.char c, true)

end

/-- The expression that a text is, with the number of its groups, or what is wrong with it. -/
def parse (d : Dialect) (text : String) : Except String (Regex × Nat) :=
  if d.filled && text = "" then .ok (.empty, 0) else
  match alternatives d (4 * text.length + 4) false |>.run { rest := text.toList } with
  | .ok r s => .ok (r, s.groups)
  | .error message _ => .error message

end WasmBinary.Machine.Script.Regex
