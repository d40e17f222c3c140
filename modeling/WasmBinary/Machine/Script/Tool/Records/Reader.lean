/-
  What reading a program that works on records knows and tells.

  1. **Faults** are told as they are found, with their lines, and only so many of them.  What closes
     nothing is told and dropped.

  2. **Misfits** — a token that does not fit is told, unless that was told just before.  Reading
     goes on behind it where a statement ends.

  3. **Names** — a name stands for a variable, an array or a function, and for the same everywhere.
-/
import WasmBinary.Machine.Script.Regex.Reading
import WasmBinary.Machine.Script.Tool.Records.Program
import WasmBinary.Machine.Script.Tool.Records.Token

namespace WasmBinary.Machine.Script.Tool.Records

/-- What is told about a fault of a program, with the line if that is told. -/
structure Fault where
  line : Option Nat
  text : String

/-- What is told about a regular expression that has a fault. -/
def regexFault (fault source : String) : String :=
  let what :=
    if fault = Regex.openGroup then "missing ')'"
    else if fault = Regex.noOperand then "missing operand"
    else if fault.startsWith "Invalid content" || fault = "Regular expression too big" then
      "bad interval expression"
    else "bad class -- [], [^] or [)"
  "regular expression compile failed (" ++ what ++ ")\n" ++ source

/-- What a name stands for. -/
inductive NameKind
  | variable
  | array
  | function
deriving DecidableEq

/-- How the kind is called. -/
def NameKind.words : NameKind → String
  | .variable => "variable"
  | .array => "array"
  | .function => "function"

/-- What the names stand for that every program has. -/
def ownKinds : List (String × NameKind) :=
  [ "NR", "FNR", "NF", "FS", "OFS", "ORS", "RS", "FILENAME", "SUBSEP", "RSTART", "RLENGTH",
    "CONVFMT", "OFMT", "ARGC" ].map (fun name => (name, .variable)) ++
  [("ARGV", .array), ("ENVIRON", .array)]

/-- A call of a function. -/
structure Call where
  name : String
  arguments : Nat
  line : Nat

/-- What is left to read. -/
structure Source where
  rest : List Placed
  /-- The line of the last token that was looked at. -/
  line : Nat := 1
  /-- How many braces are open, and how many parentheses. -/
  braces : Nat := 0
  parens : Nat := 0
  /-- How many ranges there are among the patterns so far. -/
  ranges : Nat := 0
  /-- Whether what is read is within a loop, or within a function. -/
  inLoop : Bool := false
  inFunction : Bool := false
  inRule : Bool := false
  /-- What was told so far, the latest first. -/
  told : List Fault := []
  /-- How many more tokens have to fit before it is told again that one does not. -/
  wary : Nat := 0
  /-- What the names stand for that are known, and the names of the function that is read. -/
  kinds : List (String × NameKind) := ownKinds
  locals : List (String × Option NameKind) := []
  /-- The functions with the numbers of their parameters. -/
  functions : List (String × Nat) := []
  /-- The calls of functions that were not known then, the latest first. -/
  calls : List Call := []

/-- Why reading does not go on. -/
inductive Halt
  /-- A token does not fit.  What follows may still be read. -/
  | misfit
  | forGood

/-- A reader of a program. -/
abbrev Reader := EStateM Halt Source

namespace Reader

/-! ## Faults -/

/-- How many faults are told at most. -/
def mostFaults : Nat := 5

/-- Tells a fault.  Reading ends with the last one that is told. -/
def note (line : Option Nat) (text : String) : Reader Unit := do
  modify fun s => { s with told := ⟨line, text⟩ :: s.told }
  if mostFaults ≤ (← get).told.length then throw .forGood

/-! ## Tokens -/

/-- Takes the token in front. -/
def skip : Reader Unit := modify fun s =>
  let line := (s.rest.head?.map Placed.line).getD s.line
  let rest := s.rest.drop 1
  let next := { s with rest, line, wary := s.wary - 1 }
  match s.rest.head?.map Placed.token with
  | some (.mark "(") => { next with parens := s.parens + 1 }
  | some (.mark ")") => { next with parens := s.parens - 1 }
  | some (.mark "\x7b") => { next with braces := s.braces + 1 }
  | some (.mark "\x7d") => { next with braces := s.braces - 1 }
  | some (.mark "$") =>
      match rest.head?.map Placed.token with
      | some (.number ..) => { next with wary := s.wary }
      | _ => next
  | _ => next

/-- Drops what closes nothing, and tells it.  A semicolon behind such a brace is dropped as well. -/
def dropExtras : Nat → Reader Unit
  | 0 => return
  | n + 1 => do
      let s ← get
      match s.rest with
      | ⟨.mark ")", line⟩ :: rest =>
          if s.parens = 0 then
            note (some line) "extra ')'"
            set { (← get) with rest }
            dropExtras n
      | ⟨.mark "\x7d", line⟩ :: rest =>
          if s.braces = 0 then
            note (some line) "extra '\x7d'"
            let rest := match rest with
              | ⟨.mark ";", _⟩ :: more => more
              | _ => rest
            set { (← get) with rest }
            dropExtras n
      | _ => return

/-- The token in front. -/
def peek : Reader Token := do
  dropExtras (← get).rest.length
  match (← get).rest.head? with
  | some ⟨.broken true text, line⟩ =>
      note (some line) text
      throw .forGood
  | some p => return p.token
  | none => return .fileEnd

/-- The token behind the one in front. -/
def second : Reader Token := return (((← get).rest.drop 1).head?.map Placed.token).getD .fileEnd

/-- The line of the token in front. -/
def lineHere : Reader Nat := do
  let s ← get
  return (s.rest.head?.map Placed.line).getD s.line

/-- Tells a fault at the line of the token in front. -/
def noteHere (text : String) : Reader Unit := do note (some (← lineHere)) text

/-- Tells that the token in front does not fit. -/
def noteMisfit : Reader Unit := do
  let token ← peek
  let s ← get
  let line ← lineHere
  let generic := note (some line) ("syntax error at or near " ++ token.shown)
  let unclosed : Reader Unit := do
    set { s with parens := 0 }
    note (some line) ("missing ) near " ++ token.shown)
  match token with
  | .broken _ text => note none text
  | .lineEnd | .mark ";" | .mark "\x7d" => if s.parens = 0 then generic else unclosed
  | .fileEnd | .keyword "BEGIN" | .keyword "END" =>
      if s.braces = 0 then generic
      else
        set { s with braces := 0 }
        note (some line) ("missing \x7d near " ++ token.shown)
  | _ => generic

/-- Tells that the token in front does not fit, unless that was told just before. -/
def noticeMisfit : Reader Unit := do
  let _ ← peek
  if (← get).wary = 0 then noteMisfit
  modify fun s => { s with wary := 3 }

/-- Fails as the token in front does not fit. -/
def misplaced {α : Type} : Reader α := do
  noticeMisfit
  throw .misfit

/-- Whether a mark is in front. -/
def atMark (m : String) : Reader Bool := return match ← peek with
  | .mark s => s = m
  | _ => false

/-- Whether a keyword is in front. -/
def atWord (w : String) : Reader Bool := return match ← peek with
  | .keyword s => s = w
  | _ => false

/-- Takes a mark if it is in front. -/
def takeMark (m : String) : Reader Bool := do
  if ← atMark m then
    skip
    return true
  else return false

/-- Takes a keyword if it is in front. -/
def takeWord (w : String) : Reader Bool := do
  if ← atWord w then
    skip
    return true
  else return false

/-- Takes a mark, which has to be in front. -/
def expect (m : String) : Reader Unit := do if !(← takeMark m) then misplaced

/-- Takes line ends. -/
def skipLines : Reader Unit := modify fun s =>
  let more := s.rest.dropWhile fun p => match p.token with
    | .lineEnd => true
    | _ => false
  { s with rest := more }

/-- Notes what a name stands for.  It stands for the same everywhere. -/
def noteKind (kind : NameKind) (name : String) : Reader Unit := do
  let s ← get
  match s.locals.lookup name with
  | some (some known) =>
      if known ≠ kind then
        noteHere ("illegal reference to local " ++ known.words ++ " " ++ name)
  | some none =>
      let others := s.locals.filter fun entry => entry.1 ≠ name
      set { s with locals := (name, some kind) :: others }
  | none =>
      match s.kinds.lookup name with
      | some known =>
          if known ≠ kind then noteHere ("illegal reference to " ++ known.words ++ " " ++ name)
      | none => set { s with kinds := (name, kind) :: s.kinds }

/-- Whether a name stands for a function that is known, and for nothing else here. -/
def isFunction (name : String) : Reader Bool := do
  let s ← get
  return (s.locals.lookup name).isNone && s.kinds.lookup name = some .function

/-- Takes a name, which has to be in front. -/
def expectName : Reader String := do
  match ← peek with
  | .name s =>
      skip
      return s
  | _ => misplaced

/-- Takes the name of an array, which has to be in front. -/
def expectArray : Reader String := do
  let name ← expectName
  noteKind .array name
  return name

end Reader

end WasmBinary.Machine.Script.Tool.Records
