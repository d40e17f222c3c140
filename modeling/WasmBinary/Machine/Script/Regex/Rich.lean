/-
  Reading regular expressions of the rich notation.

  This notation has lazy and possessive repetitions, groups that do not count or that have names,
  conditions on what stands in front of or behind a place, switches within the expression, and many
  letters behind backslashes.  Of all matches at a place the first one counts, in the order of the
  expression.
-/
import WasmBinary.Machine.Script.Regex.Basic

namespace WasmBinary.Machine.Script.Regex.Rich

/-- The switches that are on. -/
structure Switches where
  caseless : Bool := false
  /-- A point means the end of a line as well. -/
  solid : Bool := false
  /-- Circumflexes and dollar signs mean lines. -/
  lines : Bool := false
  /-- White space means nothing. -/
  spaced : Bool := false

/-- What is left to read. -/
structure Source where
  rest : List Char
  groups : Nat := 0
  names : List (String × Nat) := []
  switches : Switches := {}
  /-- The highest group that is asked for. -/
  wanted : Nat := 0

/-- A reader of an expression. -/
abbrev Reader := EStateM String Source

/-- Takes so many characters. -/
def drop (n : Nat) : Reader Unit := modify fun s => { s with rest := s.rest.drop n }

/-- The characters in front that a test holds of; they are taken. -/
def takeWhile (test : Char → Bool) : Reader (List Char) := do
  let cs := (← get).rest.takeWhile test
  drop cs.length
  return cs

/-- Whether a character is a digit of a base. -/
def isDigitOf (base : Nat) (c : Char) : Bool :=
  if base = 16 then c.isDigit || ('a' ≤ c.toLower && c.toLower ≤ 'f')
  else '0' ≤ c && c.toNat < 48 + base

/-- The value of digits. -/
def valueOf (base : Nat) (cs : List Char) : Nat :=
  cs.foldl (fun n c =>
    base * n + (if c.isDigit then c.toNat - 48 else c.toLower.toNat - 87)) 0

/-! ## Letters behind backslashes -/

/-- The class that a letter stands for, and whether it is what the class does not have. -/
def classOf? (c : Char) : Option (String × Bool) :=
  match c with
  | 'd' => some ("digit", false)
  | 'D' => some ("digit", true)
  | 'w' => some ("word", false)
  | 'W' => some ("word", true)
  | 's' => some ("space", false)
  | 'S' => some ("space", true)
  | 'h' => some ("blank", false)
  | 'H' => some ("blank", true)
  | 'v' => some ("vertical", false)
  | 'V' => some ("vertical", true)
  | _ => none

/-- The character that a letter behind a backslash stands for, and digits behind it; the backslash
    and the letter are taken already. -/
def single? (c : Char) : Reader (Option Char) := do
  let braced (base : Nat) : Reader (Option Char) := do
    drop 1
    let digits ← takeWhile (isDigitOf base)
    drop 1
    return some (Char.ofNat (valueOf base digits % 256))
  let opens : Bool := (← get).rest.head?.any fun c => c.toNat = 0x7b
  match c with
  | 'a' => return some '\x07'
  | 'e' => return some '\x1b'
  | 'f' => return some '\x0c'
  | 'n' => return some '\n'
  | 'r' => return some '\x0d'
  | 't' => return some '\t'
  | 'x' =>
      if opens then braced 16
      else
        let digits := ((← get).rest.take 2).takeWhile (isDigitOf 16)
        drop digits.length
        return some (Char.ofNat (valueOf 16 digits))
  | 'o' => if opens then braced 8 else throw "missing opening brace after \\o"
  | '0' =>
      let digits := ((← get).rest.take 2).takeWhile (isDigitOf 8)
      drop digits.length
      return some (Char.ofNat (valueOf 8 digits))
  | 'c' =>
      match (← get).rest with
      | [] => throw "\\c at end of pattern"
      | d :: _ =>
          drop 1
          return some (Char.ofNat (d.toUpper.toNat ^^^ 64))
  | 'F' | 'L' | 'l' | 'U' | 'u' =>
      throw ("PCRE2 does not support \\F, \\L, \\l, \\N\x7bname\x7d, \\U, or \\u")
  | c => return if c.isAlphanum then none else some c

/-! ## Sets -/

/-- The members of a set up to its closing bracket. -/
def members : Nat → (first : Bool) → Reader (List Pattern.Member)
  | 0, _ => throw "missing terminating ] for character class"
  | n + 1, first => do
      let one (c : Char) : Reader (List Pattern.Member) := do
        let s ← get
        match s.rest with
        | '-' :: ']' :: _ => return .range c c :: (← members n false)
        | '-' :: '[' :: ':' :: _ => throw "invalid range in character class"
        | '-' :: '\\' :: d :: _ =>
            if (classOf? d).isSome then throw "invalid range in character class"
            else
              drop 3
              let last := (← single? d).getD d
              if last < c then throw "range out of order in character class"
              return .range c last :: (← members n false)
        | '-' :: d :: _ =>
            if d < c then throw "range out of order in character class"
            drop 2
            return .range c d :: (← members n false)
        | _ => return .range c c :: (← members n false)
      match (← get).rest with
      | [] => throw "missing terminating ] for character class"
      | ']' :: _ =>
          drop 1
          if first then one ']' else return []
      | '[' :: ':' :: rest =>
          let word := rest.takeWhile fun c => c.isAlpha || c = '^'
          match rest.drop word.length with
          | ':' :: ']' :: _ =>
              drop (word.length + 4)
              let bare := String.ofList (word.filter (· ≠ '^'))
              let known := ["alpha", "digit", "alnum", "upper", "lower", "space", "blank", "punct",
                "print", "graph", "cntrl", "xdigit", "word"]
              if known.contains bare then
                let here : Pattern.Member :=
                  if word.head? = some '^' then .outside bare else .named bare
                return here :: (← members n false)
              else throw "unknown POSIX class name"
          | _ =>
              drop 1
              one '['
      | '\\' :: c :: _ =>
          drop 2
          match classOf? c with
          | some (name, negated) =>
              return (if negated then .outside name else .named name) :: (← members n false)
          | none =>
              if c = 'b' then one '\x08'
              else
                match ← single? c with
                | some d => one d
                | none => one c
      | c :: _ =>
          drop 1
          one c

/-- The set behind an opening bracket. -/
def setReader : Reader Regex := do
  let negated := (← get).rest.head? = some '^'
  if negated then drop 1
  return .set negated (← members ((← get).rest.length + 1) true)

/-! ## Repetitions -/

/-- The bounds between braces in front, if there are any, and how long they are. -/
def bounds? (rest : List Char) : Option (Nat × Option Nat × Nat) :=
  let first := rest.takeWhile Char.isDigit
  let behind := rest.drop first.length
  let least := valueOf 10 first
  match behind with
  | ',' :: more =>
      let second := more.takeWhile Char.isDigit
      let closes : Bool := (more.drop second.length).head?.any fun c => c.toNat = 0x7d
      if !closes || first.isEmpty then none
      else some (least, if second.isEmpty then none else some (valueOf 10 second),
        first.length + second.length + 2)
  | c :: _ => if c.toNat = 0x7d && !first.isEmpty then some (least, some least, first.length + 1)
      else none
  | [] => none

/-- The bounds of a repetition in front, which is taken. -/
def bounds : Reader (Option (Nat × Option Nat)) := do
  match (← get).rest with
  | '*' :: _ =>
      drop 1
      return some (0, none)
  | '+' :: _ =>
      drop 1
      return some (1, none)
  | '?' :: _ =>
      drop 1
      return some (0, some 1)
  | c :: rest =>
      if c.toNat = 0x7b then
        match bounds? rest with
        | none => return none
        | some (least, most, length) =>
            if 65535 < most.getD least || 65535 < least then
              throw "number too big in \x7b\x7d quantifier"
            if most.any fun m => decide (m < least) then
              throw "numbers out of order in \x7b\x7d quantifier"
            drop (length + 1)
            return some (least, most)
      else return none
  | [] => return none

/-- What is wrong with a repetition that has nothing in front of it. -/
def unrepeatable : String := "quantifier does not follow a repeatable item"

/-- An expression with the repetition behind it, if there is one. -/
def repeatedItem (r : Regex) (repeatable : Bool) : Reader Regex := do
  match ← bounds with
  | none => return r
  | some (least, most) =>
      if !repeatable then throw unrepeatable
      let again ← match (← get).rest with
        | '?' :: _ =>
            drop 1
            pure (Regex.repeated r least most false)
        | '+' :: _ =>
            drop 1
            pure (Regex.once (.repeated r least most true))
        | _ => pure (Regex.repeated r least most true)
      if (← bounds).isSome then throw unrepeatable else return again

/-! ## Expressions -/

/-- The number of a group by its number or its name. -/
def groupOf (text : String) : Reader Nat := do
  let s ← get
  let number ← match text.toList with
    | '-' :: digits => pure (s.groups + 1 - valueOf 10 digits)
    | cs =>
        if cs.all Char.isDigit then pure (valueOf 10 cs)
        else
          match s.names.lookup text with
          | some n => pure n
          | none => throw "reference to non-existent subpattern"
  modify fun s => { s with wanted := max s.wanted number }
  return number

/-- The text up to a closing character, which is taken as well. -/
def textBefore (closing : Char) : Reader String := do
  let cs ← takeWhile fun c => c != closing
  if (← get).rest.isEmpty then throw "syntax error in subpattern name (missing terminator?)"
  drop 1
  return String.ofList cs

/-- The character that closes what another one opens. -/
def closingOf (c : Char) : Char :=
  if c = '<' then '>' else if c.toNat = 0x7b then Char.ofNat 0x7d else c

/-- What stands behind a backslash; a place cannot be repeated. -/
def escaped (c : Char) : Reader (Regex × Bool) := do
  drop 2
  let rest := (← get).rest
  let delimited : Reader String := do
    match (← get).rest with
    | [] => throw "syntax error in subpattern name (missing terminator?)"
    | d :: _ =>
        drop 1
        textBefore (closingOf d)
  match classOf? c with
  | some (name, negated) => return (.set negated [.named name], true)
  | none =>
      match c with
      | 'b' => return (.border true true, false)
      | 'B' => return (.noBorder, false)
      | 'A' => return (.front false, false)
      | 'G' => return (.front false, false)
      | 'z' | 'Z' => return (.back false, false)
      | 'N' => return (.any false, true)
      | 'C' => return (.any true, true)
      | 'R' => return (.alt (Regex.ofText "\x0d\n") (.set false [.named "vertical"]), true)
      | 'X' => return (.any true, true)
      | 'K' => return (.keep, false)
      | 'E' => return (.empty, true)
      | 'Q' => do
          let cs := rest
          let length := (List.range (cs.length + 1)).find? fun i => (cs.drop i).take 2 = ['\\', 'E']
          let length := length.getD cs.length
          drop (length + 2)
          return (Regex.ofText (String.ofList (cs.take length)), true)
      | 'k' => return (.same (← groupOf (← delimited)), true)
      | 'g' =>
          if rest.head?.any fun d => d.isDigit || d = '-' then
            let digits ← takeWhile fun d => d.isDigit || d = '-'
            return (.same (← groupOf (String.ofList digits)), true)
          else return (.same (← groupOf (← delimited)), true)
      | 'p' | 'P' =>
          let name ← if rest.head?.any fun d => d.toNat = 0x7b then delimited
            else do
              drop 1
              pure (String.ofList (rest.take 1))
          let name := String.ofList (name.toList.filter (· ≠ '^'))
          let members : List Pattern.Member := match name with
            | "L" | "L&" => [.named "alpha"]
            | "Lu" => [.named "upper"]
            | "Ll" => [.named "lower"]
            | "N" | "Nd" => [.named "digit"]
            | "P" => [.named "punct"]
            | "Z" | "Zs" => [.range ' ' ' ']
            | "Xan" => [.named "alnum"]
            | "Xwd" => [.named "word"]
            | "Xsp" | "Xps" => [.named "space"]
            | _ => []
          if members.isEmpty then throw "unknown property after \\P or \\p"
          else return (.set (c = 'P') members, true)
      | c =>
          if c.isDigit && c != '0' then
            let more := rest.takeWhile Char.isDigit
            drop more.length
            return (.same (← groupOf (String.ofList (c :: more))), true)
          else
            match ← single? c with
            | some d => return (.char d, true)
            | none => throw "unrecognized character follows \\"

/-- Switches, as letters with a hyphen in front of those that are switched off. -/
def switched (on : Bool) (s : Switches) : List Char → Except String Switches
  | [] => .ok s
  | '-' :: rest => switched false s rest
  | '^' :: rest => switched on {} rest
  | 'i' :: rest => switched on { s with caseless := on } rest
  | 's' :: rest => switched on { s with solid := on } rest
  | 'm' :: rest => switched on { s with lines := on } rest
  | 'x' :: rest => switched on { s with spaced := on } rest
  | 'J' :: rest | 'U' :: rest | 'n' :: rest => switched on s rest
  | _ => .error "unrecognized character after (? or (?-"

/-- Takes the closing parenthesis of a group. -/
def close : Reader Unit := do
  match (← get).rest with
  | ')' :: _ => drop 1
  | _ => throw "missing closing parenthesis"

mutual

/-- Alternatives. -/
def alternatives : Nat → Reader Regex
  | 0 => return .empty
  | n + 1 => do
      let a ← sequence n
      match (← get).rest with
      | '|' :: _ =>
          drop 1
          return .alt a (← alternatives n)
      | _ => return a

/-- Expressions one after the other. -/
def sequence : Nat → Reader Regex
  | 0 => return .empty
  | n + 1 => do
      let s ← get
      match s.rest with
      | [] | '|' :: _ | ')' :: _ => return .empty
      | c :: _ =>
          if s.switches.spaced && (c = ' ' || c = '\t' || c = '\n') then
            drop 1
            sequence n
          else if s.switches.spaced && c = '#' then
            let _ ← takeWhile fun c => c != '\n'
            sequence n
          else
            let (a, repeatable) ← item n
            let a ← repeatedItem a repeatable
            return .seq a (← sequence n)

/-- What the parentheses of a group that have been opened hold, up to the closing one. -/
def nested : Nat → Reader Regex
  | 0 => return .empty
  | n + 1 => do
      let before := (← get).switches
      let r ← alternatives n
      close
      modify fun s => { s with switches := before }
      return r

/-- A group that counts. -/
def counted : Nat → Option String → Reader Regex
  | 0, _ => return .empty
  | n + 1, name => do
      let number := (← get).groups + 1
      modify fun s => { s with
        groups := number
        names := match name with
          | some name => (name, number) :: s.names
          | none => s.names }
      return .group number (← nested n)

/-- A single expression, and whether it can be repeated. -/
def item : Nat → Reader (Regex × Bool)
  | 0 => return (.empty, false)
  | n + 1 => do
      let s ← get
      let atom (r : Regex) : Regex := if s.switches.caseless then .caseless r else r
      match s.rest with
      | [] => return (.empty, false)
      | '(' :: '?' :: rest =>
          match rest with
          | '#' :: _ =>
              let _ ← takeWhile fun c => c != ')'
              close
              return (.empty, true)
          | ':' :: _ =>
              drop 3
              return (← nested n, true)
          | '|' :: _ =>
              drop 3
              return (← nested n, true)
          | '>' :: _ =>
              drop 3
              return (.once (← nested n), true)
          | '=' :: _ =>
              drop 3
              return (.look true true (← nested n), true)
          | '!' :: _ =>
              drop 3
              return (.look true false (← nested n), true)
          | '<' :: '=' :: _ =>
              drop 4
              return (.look false true (← nested n), true)
          | '<' :: '!' :: _ =>
              drop 4
              return (.look false false (← nested n), true)
          | '<' :: _ =>
              drop 3
              return (← counted n (some (← textBefore '>')), true)
          | '\'' :: _ =>
              drop 3
              return (← counted n (some (← textBefore '\'')), true)
          | 'P' :: '<' :: _ =>
              drop 4
              return (← counted n (some (← textBefore '>')), true)
          | 'P' :: '=' :: _ =>
              drop 4
              return (.same (← groupOf (← textBefore ')')), true)
          | _ =>
              drop 2
              let letters ← takeWhile fun c => c != ')' && c != ':'
              match switched true s.switches letters, (← get).rest with
              | _, [] => throw "missing closing parenthesis"
              | .error message, _ => throw message
              | .ok switches, ':' :: _ =>
                  drop 1
                  modify fun s => { s with switches }
                  let r ← nested n
                  modify fun now => { now with switches := s.switches }
                  return (r, true)
              | .ok switches, _ =>
                  drop 1
                  modify fun s => { s with switches }
                  return (.empty, false)
      | '(' :: '*' :: _ =>
          let word ← textBefore ')'
          if ["(*FAIL", "(*F"].contains word then return (.look true false .empty, true)
          else return (.empty, false)
      | '(' :: _ =>
          drop 1
          return (← counted n none, true)
      | '[' :: _ =>
          drop 1
          return (atom (← setReader), true)
      | '.' :: _ =>
          drop 1
          return (.any s.switches.solid, true)
      | '^' :: _ =>
          drop 1
          return (.front s.switches.lines, false)
      | '$' :: _ =>
          drop 1
          return (.back s.switches.lines, false)
      | ['\\'] => throw "\\ at end of pattern"
      | '\\' :: c :: _ =>
          let (r, repeatable) ← escaped c
          return (atom r, repeatable)
      | c :: rest =>
          if c = '*' || c = '+' || c = '?' then throw unrepeatable
          else if c.toNat = 0x7b && (bounds? rest).isSome then throw unrepeatable
          else
            drop 1
            return (atom (.char c), true)

end

/-- The expression that a text is, with the number of its groups, or what is wrong with it. -/
def parse (text : String) : Except String (Regex × Nat) :=
  match alternatives (5 * text.length + 5) |>.run { rest := text.toList } with
  | .ok r s =>
      if !s.rest.isEmpty then .error "unmatched closing parenthesis"
      else if s.groups < s.wanted then .error "reference to non-existent subpattern"
      else .ok (r, s.groups)
  | .error message _ => .error message

end WasmBinary.Machine.Script.Regex.Rich
