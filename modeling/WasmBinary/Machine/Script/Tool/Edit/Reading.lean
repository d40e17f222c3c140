/-
  Scripts of the stream editor, and how they are read.

  A script is a list of instructions.  Each of them has up to two addresses, which tell the lines
  that it is for.  Blocks and jumps lead to other places in the list.

  1. **Parts** — a script may be given in several parts, each of them a text or a file.  Mistakes
     are told with the part and the place in it.

  2. **Escapes** stand for single characters, in expressions, in replacements and in texts.

  3. **Texts** of instructions go on over lines that end in a backslash, and into the next part of
     the script.
-/
import WasmBinary.Machine.Script.Regex.Reading
import WasmBinary.Machine.Script.Regex.Remarks
import WasmBinary.Machine.Script.Regex.Matching
import WasmBinary.Machine.Script.Numeral

namespace WasmBinary.Machine.Script.Tool.Edit

/-! ## Scripts -/

/-- An expression, with the way in which it is matched. -/
structure Expression where
  regex : Regex
  groups : Nat := 0
  caseless : Bool := false
  /-- Whether lines within the text count as lines. -/
  lines : Bool := false

/-- Which line is meant. -/
inductive Address
  | line (n : Nat)
  | last
  | step (first every : Nat)
  /-- A line that fits; without an expression the last one that was used counts. -/
  | fitting (e : Option Expression)
  /-- So many lines behind the first one of a range. -/
  | further (n : Nat)
  /-- The next line whose number is a multiple. -/
  | multiple (n : Nat)

/-- What becomes of letters. -/
inductive Letters
  | same
  | upper
  | lower
deriving DecidableEq

/-- A piece of a replacement: a text, and what a group has matched behind it. -/
structure Piece where
  text : String := ""
  group : Option Nat := none
  letters : Letters := .same
  /-- What becomes of the first letter, whatever becomes of the others. -/
  first : Letters := .same

/-- A substitution. -/
structure Substitution where
  expression : Option Expression := none
  replacement : List Piece := []
  every : Bool := false
  /-- Which match is the first to be replaced. -/
  nth : Option Nat := none
  /-- Whether the line is printed, before and after it is run as a command. -/
  printsBefore : Bool := false
  prints : Bool := false
  /-- Whether the line is run as a command. -/
  runs : Bool := false
  target : Option String := none

/-- What an instruction does. -/
inductive Action
  | substitute (s : Substitution)
  | map (source target : List Char)
  | append (text : String)
  | insert (text : String)
  | change (text : String)
  /-- Goes to a place; perhaps only if something was substituted, or only if nothing was. -/
  | jump (label : String) (place : Nat) (wanted : Option Bool)
  | label (name : String)
  /-- Opens a block, which is closed at a place. -/
  | opening (close : Nat)
  | closing
  | quit (status : Nat) (prints : Bool)
  /-- Shows the line so that every character can be seen, in lines of a length. -/
  | show (width : Option Nat)
  | readFile (path : String)
  | readLine (path : String)
  | writeFile (path : String)
  | writeLine (path : String)
  /-- Runs a command, or the line as one. -/
  | run (command : Option String)
  /-- An instruction that is just a letter. -/
  | letter (c : Char)

/-- An instruction with its addresses. -/
structure Instruction where
  first : Option Address := none
  second : Option Address := none
  negated : Bool := false
  action : Action

/-! ## What is read -/

/-- Where a part of a script comes from. -/
inductive Origin
  | expression (number : Nat)
  | file (path : String)

/-- How scripts are read. -/
structure Manner where
  extended : Bool := false
  /-- Only what is common to all editors is allowed. -/
  strict : Bool := false
  /-- Nothing is allowed that reaches beyond the lines. -/
  sandboxed : Bool := false

/-- What is left of a part of a script, and what came of what was read. -/
structure Source where
  rest : List Char := []
  origin : Origin := .expression 0
  taken : Nat := 0
  line : Nat := 1
  manner : Manner := {}
  /-- Whether this is the first part of the script. -/
  first : Bool := true
  instructions : Array Instruction := #[]
  /-- The open blocks, the innermost first: their instructions, and their parts. -/
  blocks : List (Nat × String) := []
  /-- A text that goes on in the next part, and the action that it is for. -/
  unfinished : Option (List Char × (String → Action)) := none
  /-- Whether lines are not written by themselves. -/
  quiet : Bool := false
  /-- The files that are written to. -/
  targets : List String := []

/-- What is wrong with a script. -/
structure Mistake where
  text : String
  status : Nat := 1

/-- A reader of a script. -/
abbrev Reader := EStateM Mistake Source

/-- A place in a part of a script. -/
def Source.place (s : Source) (taken : Nat) : String :=
  match s.origin with
  | .expression number =>
      "-e expression #" ++ toString number ++ ", char " ++ toString taken ++ ": "
  | .file path => "file " ++ path ++ " line " ++ toString s.line ++ ": "

/-- A letter as messages name it. -/
def named (text : String) : String := (Char.ofNat 0x60).toString ++ text ++ "'"

/-- The brace that opens a block, and the one that closes it. -/
def openBrace : Char := '\x7b'
def closeBrace : Char := '\x7d'

/-- Fails, with the place in the script. -/
def wrong {α : Type} (text : String) : Reader α := do
  let s ← get
  throw { text := s.place s.taken ++ text }

/-- The next character. -/
def next? : Reader (Option Char) := do
  match (← get).rest with
  | [] => return none
  | c :: rest =>
      modify fun s =>
        { s with rest, taken := s.taken + 1, line := if c = '\n' then s.line + 1 else s.line }
      return some c

/-- Gives a character back. -/
def unread (c : Option Char) : Reader Unit :=
  match c with
  | none => return
  | some c => modify fun s =>
      { s with
        rest := c :: s.rest
        taken := s.taken - 1
        line := if c = '\n' then s.line - 1 else s.line }

/-- Takes characters as long as a test holds. -/
def takeWhile (p : Char → Bool) : Reader (List Char) := do
  let front := (← get).rest.takeWhile p
  modify fun s =>
    { s with
      rest := s.rest.drop front.length
      taken := s.taken + front.length
      line := s.line + front.count '\n' }
  return front

/-- Whether a character is a blank. -/
def isBlank (c : Char) : Bool := c = ' ' || c = '\t'

/-- Whether a character is white. -/
def isWhite (c : Char) : Bool := c = ' ' || (9 ≤ c.toNat && c.toNat ≤ 13)

/-- The next character that is no blank. -/
def nextVisible? : Reader (Option Char) := do
  let _ ← takeWhile isBlank
  next?

/-- The number that starts with a character, or zero. -/
def number (c : Option Char) : Reader Nat := do
  unread c
  return Nat.ofDigitChars 10 (← takeWhile Char.isDigit) 0

/-- Takes what may follow an instruction. -/
def endOfInstruction : Reader Unit := do
  let c ← nextVisible?
  match c with
  | none | some '\n' | some ';' => return
  | some c =>
      if c = closeBrace || c = '#' then unread (some c)
      else wrong "extra characters after command"

/-! ## Escapes -/

/-- Where a text with escapes is used. -/
inductive Use
  | expression
  | replacement
  | plain
deriving DecidableEq

/-- A character that an escape with a number stands for.  In a replacement it means nothing else. -/
def Use.literal (use : Use) (code : Nat) : List Char :=
  let c := Char.ofNat (code % 256)
  if use = .replacement && (c = '&' || c = '\\') then ['\\', c] else [c]

/-- Replaces the escapes for single characters.  The first number bounds how many there are. -/
def unescaped (use : Use) : Nat → List Char → Except String (List Char)
  | 0, cs => .ok cs
  | _, [] => .ok []
  | n + 1, '\\' :: c :: rest =>
      let one (code : Nat) : Except String (List Char) :=
        return Char.ofNat code :: (← unescaped use n rest)
      let numbered (base most : Nat) : Except String (List Char) := do
        let digits := (rest.take most).takeWhile fun c =>
          Numeral.isHex c && Numeral.hexValue c < base
        let value := digits.foldl (fun value c => value * base + Numeral.hexValue c) 0
        let front := if digits.isEmpty then [c] else use.literal value
        return front ++ (← unescaped use n (rest.drop digits.length))
      match c with
      | 'a' => one 7
      | 'f' => one 12
      | 'r' => one 13
      | 't' => one 9
      | 'v' => one 11
      | 'd' => numbered 10 3
      | 'o' => numbered 8 3
      | 'x' => numbered 16 2
      | 'c' =>
          match rest with
          | [] => .ok ['\\']
          | '\\' :: '\\' :: rest => return Char.ofNat 0x1c :: (← unescaped use n rest)
          | '\\' :: _ => .error "recursive escaping after \\c not allowed"
          | d :: rest => return Char.ofNat (d.toUpper.toNat ^^^ 0x40) :: (← unescaped use n rest)
      | c => return '\\' :: c :: (← unescaped use n rest)
  | n + 1, c :: rest => return c :: (← unescaped use n rest)

/-- Replaces the escapes of a text. -/
def withoutEscapes (use : Use) (text : List Char) : Reader (List Char) := do
  match unescaped use text.length text with
  | .ok text => return text
  | .error message => wrong message

/-- A text where backslashes are left out that stand in front of other characters, or mean the end
    of a line. -/
def withoutBackslashes : List Char → List Char
  | '\\' :: 'n' :: rest => '\n' :: withoutBackslashes rest
  | '\\' :: c :: rest => c :: withoutBackslashes rest
  | c :: rest => c :: withoutBackslashes rest
  | [] => []

/-! ## Texts between delimiters -/

/-- The name of a class in a set, up to a mark in front of a closing bracket. -/
def className (mark : Char) : Nat → Reader (Option (List Char))
  | 0 => return none
  | n + 1 => do
      match ← next? with
      | none | some '\n' => return none
      | some c =>
          if c = mark && (← get).rest.head? = some ']' then
            let _ ← next?
            return some [mark, ']']
          else return (← className mark n).map (c :: ·)

/-- What is left of a set, with the bracket that closes it. -/
def setRest : Nat → Reader (Option (List Char))
  | 0 => return none
  | n + 1 => do
      match ← next? with
      | none | some '\n' => return none
      | some ']' => return some [']']
      | some '\\' =>
          if (← get).rest.head? = some 'n' then
            let _ ← next?
            return (← setRest n).map ('\n' :: ·)
          else return (← setRest n).map ('\\' :: ·)
      | some '[' =>
          match (← get).rest with
          | mark :: _ =>
              if mark = '.' || mark = ':' || mark = '=' then
                let _ ← next?
                match ← className mark (n + 1) with
                | some name => return (← setRest n).map (['[', mark] ++ name ++ ·)
                | none => return none
              else return (← setRest n).map ('[' :: ·)
          | [] => return none
      | some c => return (← setRest n).map (c :: ·)

/-- A set behind the bracket that opens it. -/
def setText : Reader (Option (List Char)) := do
  let front := match (← get).rest with
    | '^' :: ']' :: _ => 2
    | '^' :: _ | ']' :: _ => 1
    | _ => 0
  let taken := (← get).rest.take front
  modify fun s => { s with rest := s.rest.drop front, taken := s.taken + front }
  return (← setRest (← get).rest.length.succ).map (taken ++ ·)

/-- The text up to a delimiter, which a backslash in front of it takes the meaning from.  Sets
    protect it too, where an expression is read. -/
def delimited (delimiter : Char) (expression : Bool) : Nat → Reader (Option (List Char))
  | 0 => return none
  | n + 1 => do
      let goOn (front : List Char) : Reader (Option (List Char)) :=
        return (← delimited delimiter expression n).map (front ++ ·)
      match ← next? with
      | none => return none
      | some '\n' =>
          unread (some '\n')
          return none
      | some c =>
          if c = delimiter then return some []
          else if c = '\\' then
            match ← next? with
            | none => return none
            | some 'n' => if expression && delimiter != 'n' then goOn ['\n'] else
                goOn (if delimiter = 'n' then ['n'] else ['\\', 'n'])
            | some '\n' => goOn (if expression then ['\n'] else ['\\', '\n'])
            | some d =>
                goOn (if d = delimiter && (expression || d != '&') then [d] else ['\\', d])
          else if expression && c = '[' then
            match ← setText with
            | some set => goOn ('[' :: set)
            | none => return none
          else goOn [c]

/-- The text up to a delimiter, or a complaint. -/
def delimitedOr (delimiter : Char) (expression : Bool) (complaint : String) :
    Reader (List Char) := do
  match ← delimited delimiter expression (← get).rest.length.succ with
  | some text => return text
  | none => wrong complaint

/-! ## Addresses -/

/-- How expressions are written. -/
def Manner.dialect (m : Manner) (lines : Bool) : Regex.Dialect :=
  let base : Regex.Dialect := if m.extended then .extended else .basic
  { base with
    choices := base.choices && (m.extended || !m.strict)
    pointLineEnd := !lines
    negatedLineEnd := !lines }

/-- An expression, where nothing stands for the last one that was used.  It has to have so many
    groups. -/
def expressionOf (text : List Char) (caseless lines : Bool) (least : Nat := 0) :
    Reader (Option Expression) := do
  if text.isEmpty then
    if caseless || lines then wrong "cannot specify modifiers on empty regexp"
    return none
  let text ← withoutEscapes .expression text
  let dialect := (← get).manner.dialect lines
  match Regex.parse dialect (String.ofList text) with
  | .error message => wrong message
  | .ok (regex, groups) =>
      if let some fault := (Regex.remarks dialect (String.ofList text)).fault then
        throw { text := fault, status := 4 }
      if groups < least then
        wrong ("invalid reference \\" ++ toString least ++ " on " ++ named "s" ++ " command's RHS")
      return some { regex, groups, caseless, lines }

/-- The letters behind the expression of an address: whether case and lines count. -/
def expressionFlags : Nat → (caseless lines : Bool) → Reader (Bool × Bool)
  | 0, caseless, lines => return (caseless, lines)
  | n + 1, caseless, lines => do
      let c ← nextVisible?
      match c with
      | some 'I' =>
          if (← get).manner.strict then
            unread c
            return (caseless, lines)
          expressionFlags n true lines
      | some 'M' =>
          if (← get).manner.strict then
            unread c
            return (caseless, lines)
          expressionFlags n caseless true
      | c =>
          unread c
          return (caseless, lines)

/-- The address that starts with a character, if there is one. -/
def address? (c : Option Char) : Reader (Option Address) := do
  let strict := (← get).manner.strict
  match c with
  | some '$' => return some .last
  | some '/' => expression '/'
  | some '\\' =>
      match ← next? with
      | some c => expression c
      | none => wrong "unterminated address regex"
  | some '+' => if strict then return none else return some (.further (← number (← nextVisible?)))
  | some '~' => if strict then return none else return some (.multiple (← number (← nextVisible?)))
  | some c =>
      if !c.isDigit then return none
      let n ← number (some c)
      let next ← nextVisible?
      if next = some '~' && !strict then
        let every ← number (← nextVisible?)
        return some (if every = 0 then .line n else .step n every)
      else
        unread next
        return some (.line n)
  | none => return none
where
  /-- The expression up to a delimiter. -/
  expression (delimiter : Char) : Reader (Option Address) := do
    let text ← delimitedOr delimiter true "unterminated address regex"
    let (caseless, lines) ← expressionFlags (← get).rest.length.succ false false
    return some (.fitting (← expressionOf text caseless lines))

/-! ## Substitutions -/

/-- The pieces of a replacement.  The text in front of the rest of it is given, and what becomes of
    letters, now and behind the next piece. -/
def pieces (strict : Bool) :
    List Char → (text : List Char) → (now next : Letters × Letters) → List Piece
  | [], text, now, _ => if text.isEmpty then [] else [close text now none]
  | ['\\'], text, now, _ => [close ('\\' :: text) now none]
  | '\\' :: c :: rest, text, now, next =>
      if c.isDigit then close text now (some (c.toNat - 48)) :: pieces strict rest [] next next
      else if strict then close (c :: text) now none :: pieces strict rest [] next next
      else
        match c with
        | 'L' => close text now none :: pieces strict rest [] (.lower, .same) (.lower, .same)
        | 'U' => close text now none :: pieces strict rest [] (.upper, .same) (.upper, .same)
        | 'E' => close text now none :: pieces strict rest [] (.same, .same) (.same, .same)
        | 'l' => close text now none :: pieces strict rest [] (next.1, .lower) next
        | 'u' => close text now none :: pieces strict rest [] (next.1, .upper) next
        | c => close (c :: text) now none :: pieces strict rest [] next next
  | '&' :: rest, text, now, next => close text now (some 0) :: pieces strict rest [] next next
  | c :: rest, text, now, next => pieces strict rest (c :: text) now next
where
  /-- A piece, whose text is given backwards. -/
  close (text : List Char) (now : Letters × Letters) (group : Option Nat) : Piece :=
    { text := String.ofList text.reverse, group, letters := now.1, first := now.2 }

/-- The greatest number of a group that a replacement asks for. -/
def greatestGroup (replacement : List Piece) : Nat :=
  replacement.foldl (fun n piece => max n (piece.group.getD 0)) 0

/-- A replacement without the newlines' backslashes. -/
def replacementText : List Char → List Char
  | '\\' :: 'n' :: rest => '\\' :: '\n' :: replacementText rest
  | '\\' :: c :: rest => '\\' :: c :: replacementText rest
  | c :: rest => c :: replacementText rest
  | [] => []

/-- The path behind an instruction. -/
def pathArgument : Reader String := do
  let _ ← takeWhile isBlank
  let path ← takeWhile (· ≠ '\n')
  let _ ← next?
  if path.isEmpty then wrong "missing filename in r/R/w/W commands"
  return String.ofList path

/-- The path of a file that is written to. -/
def target : Reader String := do
  if (← get).manner.sandboxed then wrong "e/r/w commands disabled in sandbox mode"
  let path ← pathArgument
  modify fun s => { s with targets := s.targets ++ [path] }
  return path

/-- The flags of a substitution, and whether case and lines count. -/
def flags : Nat → Substitution → (caseless lines : Bool) → Reader (Substitution × Bool × Bool)
  | 0, s, caseless, lines => return (s, caseless, lines)
  | n + 1, s, caseless, lines => do
      let strict := (← get).manner.strict
      let unknown : Reader (Substitution × Bool × Bool) := wrong ("unknown option to " ++ named "s")
      match ← nextVisible? with
      | none | some '\n' | some ';' => return (s, caseless, lines)
      | some 'i' | some 'I' => if strict then unknown else flags n s true lines
      | some 'm' | some 'M' => if strict then unknown else flags n s caseless true
      | some 'e' => if strict then unknown else flags n { s with runs := true } caseless lines
      | some 'g' =>
          if s.every then
            wrong ("multiple " ++ named "g" ++ " options to " ++ named "s" ++ " command")
          flags n { s with every := true } caseless lines
      | some 'p' =>
          if s.prints || s.printsBefore then
            wrong ("multiple " ++ named "p" ++ " options to " ++ named "s" ++ " command")
          flags n (if s.runs then { s with prints := true } else { s with printsBefore := true })
            caseless lines
      | some 'w' => return ({ s with target := some (← target) }, caseless, lines)
      | some c =>
          if c = closeBrace || c = '#' then
            unread (some c)
            return (s, caseless, lines)
          else if c.isDigit then
            if s.nth.isSome then
              wrong ("multiple number options to " ++ named "s" ++ " command")
            let nth ← number (some c)
            if nth = 0 then
              wrong ("number option to " ++ named "s" ++ " command may not be zero")
            flags n { s with nth := some nth } caseless lines
          else if c = '\r' && (← get).rest.head? = some '\n' then
            let _ ← next?
            return (s, caseless, lines)
          else unknown

/-- A substitution behind its letter. -/
def substitution : Reader Action := do
  let complaint := "unterminated " ++ named "s" ++ " command"
  match ← next? with
  | none => wrong complaint
  | some delimiter =>
      let source ← delimitedOr delimiter true complaint
      let result ← delimitedOr delimiter false complaint
      let result ← withoutEscapes .replacement result
      let strict := (← get).manner.strict
      let replacement := pieces strict (replacementText result) [] (.same, .same) (.same, .same)
      let (s, caseless, lines) ← flags (← get).rest.length.succ { replacement } false false
      let expression ← expressionOf source caseless lines (greatestGroup replacement)
      if s.runs && (← get).manner.sandboxed then wrong "e/r/w commands disabled in sandbox mode"
      let s := if s.runs then s else { s with prints := s.printsBefore, printsBefore := false }
      return .substitute { s with expression }

/-- The characters of one side of a mapping. -/
def mapped : List Char → List Char
  | '\\' :: 'n' :: rest => '\n' :: mapped rest
  | '\\' :: c :: rest => c :: mapped rest
  | c :: rest => c :: mapped rest
  | [] => []

/-- A mapping of characters behind its letter. -/
def mapping : Reader Action := do
  let complaint := "unterminated " ++ named "y" ++ " command"
  match ← next? with
  | none => wrong complaint
  | some delimiter =>
      let source ← withoutEscapes .plain (← delimitedOr delimiter false complaint)
      let result ← withoutEscapes .plain (← delimitedOr delimiter false complaint)
      let (source, result) := (mapped source, mapped result)
      if source.length ≠ result.length then
        wrong ("strings for " ++ named "y" ++ " command are different lengths")
      endOfInstruction
      return .map source result

/-! ## Texts -/

/-- The lines of a text up to one that no backslash ends, and whether the text ends there. -/
def textLines : Nat → Reader (List Char × Bool)
  | 0 => return ([], true)
  | n + 1 => do
      match ← next? with
      | none | some '\n' => return (['\n'], true)
      | some '\\' =>
          match ← next? with
          | none => return (['\n'], false)
          | some c =>
              let (rest, ends) ← textLines n
              return ('\\' :: c :: rest, ends)
      | some c =>
          let (rest, ends) ← textLines n
          return (c :: rest, ends)

/-- A text as it is written. -/
def textOf (raw : List Char) : Reader String :=
  return String.ofList (withoutBackslashes (← withoutEscapes .plain raw))

/-- Takes the lines of a text behind what is there already. -/
def textFrom (raw : List Char) (act : String → Action) : Reader Action := do
  let (lines, ends) ← textLines (← get).rest.length.succ
  let raw := raw ++ lines
  unless ends do modify fun s => { s with unfinished := some (raw, act) }
  return act (← textOf raw)

/-- The text behind an instruction: the rest of the line, or the lines behind a backslash. -/
def textArgument (act : String → Action) : Reader Action := do
  let complaint :=
    "expected \\ after " ++ named "a" ++ ", " ++ named "c" ++ " or " ++ named "i"
  match ← nextVisible? with
  | none => wrong complaint
  | some '\\' =>
      match ← next? with
      | none =>
          modify fun s => { s with unfinished := some ([], act) }
          return act ""
      | some '\n' => textFrom [] act
      | c =>
          if (← get).manner.strict then wrong complaint
          unread c
          textFrom [] act
  | c =>
      if (← get).manner.strict then wrong complaint
      unread c
      textFrom [] act

/-! ## Instructions -/

/-- The name behind a jump or a label. -/
def labelArgument (ends : Char → Bool) : Reader String := do
  let _ ← takeWhile isBlank
  return String.ofList (← takeWhile fun c => !ends c)

/-- Whether a character ends the name behind a jump. -/
def endsJump (c : Char) : Bool := isWhite c || c = ';' || c = closeBrace || c = '#'

/-- The number behind an instruction. -/
def numberArgument : Reader (Option Nat) := do
  let c ← nextVisible?
  let n ← if c.any Char.isDigit then some <$> number c else do
    unread c
    pure none
  endOfInstruction
  return n

/-- What the instruction of a letter does. -/
def actionOf (c : Char) (second : Bool) : Reader Action := do
  let manner := (← get).manner
  let once : Reader Unit := if second then wrong "command only uses one address" else return
  if manner.strict then
    if "eFvzLQTRW".toList.contains c then wrong ("unknown command: " ++ named c.toString)
    if "aiqr".toList.contains c then once
  let reads : Reader String := do
    if manner.sandboxed then wrong "e/r/w commands disabled in sandbox mode"
    pathArgument
  let jump (wanted : Option Bool) : Reader Action :=
    return .jump (← labelArgument endsJump) 0 wanted
  match c with
  | 's' => substitution
  | 'y' => mapping
  | 'a' => textArgument .append
  | 'i' => textArgument .insert
  | 'c' => textArgument .change
  | 'e' =>
      if manner.sandboxed then wrong "e/r/w commands disabled in sandbox mode"
      match ← nextVisible? with
      | none | some '\n' => return .run none
      | c =>
          unread c
          textArgument fun text => .run (some (String.ofList text.toList.dropLast))
  | 'b' => jump none
  | 't' => jump (some true)
  | 'T' => jump (some false)
  | 'q' | 'Q' =>
      once
      return .quit ((← numberArgument).getD 0) (c = 'q')
  | 'l' => return .show (← numberArgument)
  | 'r' => return .readFile (← reads)
  | 'R' => return .readLine (← reads)
  | 'w' => return .writeFile (← target)
  | 'W' => return .writeLine (← target)
  | c =>
      if "=dDFgGhHnNpPxz".toList.contains c then
        endOfInstruction
        return .letter c
      else wrong ("unknown command: " ++ named c.toString)

/-- Adds an instruction. -/
def add (i : Instruction) : Reader Unit :=
  modify fun s => { s with instructions := s.instructions.push i }

/-- Takes a comment; in front of everything it may ask for quiet. -/
def comment : Reader Unit := do
  let s ← get
  if s.first && s.taken = 1 && s.rest.head? = some 'n' then modify fun s => { s with quiet := true }
  let _ ← takeWhile (· ≠ '\n')
  let _ ← next?

/-- Closes the innermost block. -/
def closeBlock (addressed : Bool) : Reader Unit := do
  let s ← get
  match s.blocks with
  | [] => wrong ("unexpected " ++ named closeBrace.toString)
  | (place, _) :: blocks =>
      if addressed then wrong (named closeBrace.toString ++ " doesn't want any addresses")
      endOfInstruction
      modify fun s =>
        { s with
          blocks
          instructions := (s.instructions.modify place fun i =>
            { i with action := .opening s.instructions.size }).push { action := .closing } }

/-- The addresses that start with a character, and the character behind them. -/
def addresses (c : Option Char) : Reader (Option Address × Option Address × Option Char) := do
  match ← address? c with
  | none => return (none, none, c)
  | some (.further _) | some (.multiple _) =>
      wrong "invalid usage of +N or ~N as first address"
  | some first =>
      let c ← nextVisible?
      let (second, c) ← if c = some ',' then do
          match ← address? (← nextVisible?) with
          | some second => pure (some second, ← nextVisible?)
          | none => wrong ("unexpected " ++ named ",")
        else pure (none, c)
      if let .line 0 := first then
        let strict := (← get).manner.strict
        let fits := match second with
          | some (.fitting _) => !strict
          | _ => false
        unless fits do wrong "invalid usage of line address 0"
      return (some first, second, c)

/-- Takes the instructions of a part. -/
def instructions : Nat → Reader Unit
  | 0 => return
  | n + 1 => do
      let _ ← takeWhile fun c => isWhite c || c = ';'
      match ← next? with
      | none => return
      | c =>
          let (first, second, c) ← addresses c
          let negated := c = some '!'
          let c ← if negated then do
              let c ← nextVisible?
              if c = some '!' then wrong ("multiple " ++ named "!" ++ "s")
              pure c
            else pure c
          match c with
          | none => wrong "missing command"
          | some '#' =>
              if first.isSome then wrong "comments don't accept any addresses"
              comment
          | some ':' =>
              if first.isSome then wrong ": doesn't want any addresses"
              let name ← labelArgument fun c => isWhite c || c = ';'
              if name = "" then wrong "\":\" lacks a label"
              add { action := .label name }
          | some 'v' =>
              let wanted ← labelArgument endsJump
              if isLater wanted then wrong "expected newer version of sed"
          | some c =>
              if c = openBrace then
                modify fun s =>
                  { s with blocks := (s.instructions.size, s.place 0) :: s.blocks }
                add { first, second, negated, action := .opening 0 }
              else if c = closeBrace then
                closeBlock first.isSome
              else
                let action ← actionOf c second.isSome
                add { first, second, negated, action }
          instructions n
where
  /-- Whether a version is later than this one. -/
  isLater (version : String) : Bool :=
    match (version.splitOn ".").map fun part => part.toNat?.getD 0 with
    | major :: minor :: rest =>
        4 < major || (major = 4 && (9 < minor || (minor = 9 && !rest.isEmpty)))
    | [major] => 4 < major
    | [] => false

/-- Reads a part of a script. -/
def part : Reader Unit := do
  if let some (raw, act) := (← get).unfinished then
    modify fun s => { s with unfinished := none }
    let action ← textFrom raw act
    modify fun s =>
      { s with instructions := s.instructions.modify (s.instructions.size - 1) fun i =>
        { i with action } }
  instructions (← get).rest.length.succ
  modify fun s => { s with first := false }

/-- The script that the parts come to. -/
def Source.script (s : Source) : Except Mistake (Array Instruction) := do
  if let (_, place) :: _ := s.blocks then
    throw { text := place ++ "unmatched " ++ named openBrace.toString }
  let places := s.instructions.toList.zipIdx.filterMap fun entry =>
    match entry.1.action with
    | .label name => some (name, entry.2)
    | _ => none
  let places := places.reverse
  let missing := s.instructions.toList.filterMap fun i =>
    match i.action with
    | .jump label _ _ => if label ≠ "" && (places.lookup label).isNone then some label else none
    | _ => none
  if let some label := missing.getLast? then
    throw { text := "can't find label for jump to " ++ named label, status := 4 }
  return s.instructions.map fun i =>
    match i.action with
    | .jump label _ wanted =>
        { i with
          action := .jump label ((places.lookup label).getD s.instructions.size) wanted }
    | _ => i

end WasmBinary.Machine.Script.Tool.Edit
