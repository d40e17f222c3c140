/-
  Programs that are run with arguments from the input.

  1. **Words** — the input is taken apart at white characters, as far as quotes and backslashes do
     not protect them, or at a delimiter.  A blank at the end of a line joins the next line to it.

  2. **Command lines** have as many arguments as are allowed, as fit, or as a number of lines has.
     Where a mark stands for the arguments, each line takes its place.

  3. **Ends** — a program that fails lets the others run; one that is ended by a signal, or asks for
     it, does not.
-/
import WasmBinary.Machine.Script.Tool.Starting

namespace WasmBinary.Machine.Script.Tool

open Run

namespace Arguments

/-! ## Settings -/

/-- How arguments are gathered. -/
structure Settings where
  delimiter : Option Char := none
  /-- What each line takes the place of. -/
  mark : Option String := none
  lines : Option Nat := none
  count : Option Nat := none
  /-- How many characters a command line may have. -/
  size : Nat := 131072
  /-- Whether it is a mistake if not as many arguments fit as are wanted. -/
  strict : Bool := false
  traced : Bool := false
  asks : Bool := false
  /-- Whether nothing is run without arguments. -/
  idle : Bool := false
  /-- The word that ends the input. -/
  stop : Option String := none
  source : Option String := none
  slot : Option String := none
  /-- What is said before anything is done, the latest first. -/
  remarks : List String := []

/-- What is said about two options that exclude each other. -/
def exclusive (old new : String) : String :=
  "warning: options " ++ old ++ " and " ++ new ++
    " are mutually exclusive, ignoring previous " ++ old ++ " value"

/-- The number that is the value of an option, or what is wrong with it. -/
def number (letter : Char) (least : Nat) (text : String) : Except Misuse Nat :=
  let (negative, digits) := Numeral.signOf (text.toList.dropWhile isWhite)
  let option := " for -" ++ letter.toString ++ " option"
  if digits.isEmpty || digits.any fun c => !c.isDigit then
    .error (.hinted ("invalid number \"" ++ text ++ "\"" ++ option))
  else
    let n := Nat.ofDigitChars 10 digits 0
    if n < least || (negative && n ≠ 0) then
      .error (.hinted ("value " ++ text ++ option ++ " should be >= " ++ toString least))
    else .ok (min n (Nat.pow 2 62))

/-- The character that the description of a delimiter means, or what is wrong with it. -/
def delimiterOf (text : String) : Except Misuse Char :=
  let wrong (remark : String) : Except Misuse Char :=
    .error (.plain ("Invalid escape sequence " ++ text ++ " in input delimiter specification" ++
      remark))
  let coded (base : Nat) (greatest : String) (cs : List Char) : Except Misuse Char :=
    let digits := cs.takeWhile fun c => Numeral.isHex c && Numeral.hexValue c < base
    let n := digits.foldl (fun n c => n * base + Numeral.hexValue c) 0
    if 255 < n then wrong ("; character values must not exceed " ++ greatest ++ ".")
    else if digits.length < cs.length then
      wrong ("; trailing characters " ++ String.ofList (cs.drop digits.length) ++
        " not recognised.")
    else .ok (Char.ofNat n)
  match text.toList with
  | [c] => .ok c
  | '\\' :: c :: rest =>
      match c with
      | 'a' => .ok '\x07'
      | 'b' => .ok '\x08'
      | 'f' => .ok '\x0c'
      | 'n' => .ok '\n'
      | 'r' => .ok '\r'
      | 't' => .ok '\t'
      | 'v' => .ok '\x0b'
      | '\\' => .ok '\\'
      | 'x' => coded 16 "ff" rest
      | c => if c.isDigit then coded 8 "377" (c :: rest) else wrong "."
  | _ =>
      .error (.plain ("Invalid input delimiter specification " ++ text ++
        ": the delimiter must be either a single character or an escape sequence starting with " ++
        "\\."))

/-- Adds something that is said. -/
def Settings.remark (s : Settings) (wanted : Bool) (text : String) : Settings :=
  if wanted then { s with remarks := text :: s.remarks } else s

/-- The settings with a mark. -/
def Settings.withMark (s : Settings) (mark : String) : Settings :=
  let name := "--replace/-I/-i"
  let s := s.remark s.count.isSome (exclusive "--max-args" name)
  let s := s.remark s.lines.isSome (exclusive "--max-lines" name)
  { s with mark := some mark, count := none, lines := none }

/-- The settings with a number of lines. -/
def Settings.withLines (s : Settings) (name : String) (n : Nat) : Settings :=
  let s := s.remark s.count.isSome (exclusive "--max-args" name)
  let s := s.remark s.mark.isSome (exclusive "--replace" name)
  { s with lines := some n, count := none, mark := none }

/-- The settings with a number of arguments. -/
def Settings.withCount (s : Settings) (n : Nat) : Settings :=
  let name := "--max-args/-n"
  let s := s.remark s.lines.isSome (exclusive "--max-lines" name)
  let s := { s with count := some n, lines := none }
  if s.mark.isNone then s
  else if n = 1 then { s with count := none }
  else { s.remark true (exclusive "--replace" name) with mark := none }

/-- The next option. -/
def Settings.step (s : Settings) (option : Given) : Except Misuse Settings := do
  match option.key with
  | "0" => return { s with delimiter := some '\x00' }
  | "a" => return { s with source := some option.value }
  | "d" => return { s with delimiter := some (← delimiterOf option.value) }
  | "e" | "E" =>
      return { s with stop := if option.value = "" then none else some option.value }
  | "I" => return s.withMark option.value
  | "i" => return s.withMark (if option.valued then option.value else "{}")
  | "L" => return s.withLines "-L" (← number 'L' 1 option.value)
  | "l" =>
      let n ← if option.valued then number 'l' 1 option.value else pure 1
      return s.withLines "--max-lines/-l" n
  | "n" => return s.withCount (← number 'n' 1 option.value)
  | "s" =>
      match number 's' 1 option.value with
      | .ok n =>
          if 2092987 < n then
            return s.remark true ("value " ++ option.value ++
              " for -s option should be <= 2092987")
          else return { s with size := n }
      | .error m =>
          let text := m.lines.headD ""
          if text.startsWith "invalid" then throw m
          else return { s.remark true text with size := 1 }
  | "P" =>
      let _ ← number 'P' 0 option.value
      return s
  | "p" => return { s with asks := true, traced := true }
  | "r" => return { s with idle := true }
  | "t" => return { s with traced := true }
  | "x" => return { s with strict := true }
  | "process-slot-var" => return { s with slot := some option.value }
  | _ => return s

/-! ## Words -/

/-- What is read from the input, one after the other. -/
inductive Step
  | word (text : String)
  /-- The end of a line, or of what counts as one. -/
  | line
  /-- There is a byte that no argument can hold. -/
  | zero
  | unclosed (quote : Char)
  | tooLong
deriving Repr

/-- How reading stands between characters. -/
inductive Phase
  | space
  | plain
  | escaped
  | inside (quote : Char)
deriving DecidableEq, Repr

/-- How far the input has been read. -/
structure Reading where
  phase : Phase := .space
  /-- The word in the making, the last character first. -/
  word : List Char := []
  length : Nat := 0
  /-- Whether there is a word, even an empty one. -/
  seen : Bool := false
  previous : Char := '\n'
  warned : Bool := false
  /-- What has been read, the latest first. -/
  steps : List Step := []

/-- The word in the making; nothing of it counts behind a zero byte. -/
def Reading.text (r : Reading) : String := String.ofList (r.word.reverse.takeWhile (· ≠ '\x00'))

/-- The reading with its word done. -/
def Reading.closed (r : Reading) : Reading :=
  { r with
    word := [], length := 0, seen := false, phase := .space, steps := .word r.text :: r.steps }

/-- How white text is taken apart: whether lines are wanted, so that blanks within them do not
    matter, which word ends the input, and how long a word may be. -/
structure Manner where
  whole : Bool
  stop : Option String
  limit : Nat

/-- Reads the next character: how far the input has been read, or all steps if it ends here. -/
def Reading.next (m : Manner) (r : Reading) (c : Char) : Except (List Step) Reading :=
  let onward := { r with previous := c }
  let take (r : Reading) : Except (List Step) Reading :=
    if m.limit ≤ r.length then .error (.tooLong :: r.steps).reverse
    else
      let steps := if c = '\x00' && !r.warned then .zero :: r.steps else r.steps
      .ok { r with
        warned := r.warned || c = '\x00', steps, seen := true, previous := c
        word := c :: r.word, length := r.length + 1 }
  let plain (r : Reading) : Except (List Step) Reading :=
    if c = '\n' then
      if !r.seen then .ok { onward with phase := .space }
      else if m.stop = some r.text then .error r.steps.reverse
      else
        let closed := r.closed
        let counted := m.whole || !isWhite r.previous
        let steps := if counted then .line :: closed.steps else closed.steps
        .ok { closed with previous := c, steps }
    else if !m.whole && isWhite c then
      if m.stop = some r.text then .error r.steps.reverse
      else .ok { r.closed with previous := c }
    else if c = '\\' then .ok { onward with phase := .escaped, seen := true }
    else if c = '\'' || c = '"' then .ok { onward with phase := .inside c, seen := true }
    else take { r with phase := .plain }
  match r.phase with
  | .space => if isWhite c then .ok onward else plain r
  | .plain => plain r
  | .escaped => take { r with phase := .plain }
  | .inside quote =>
      if c = '\n' then .error (.unclosed quote :: r.steps).reverse
      else if c = quote then .ok { onward with phase := .plain }
      else take r

/-- Takes white text apart. -/
def readWords (m : Manner) (text : String) : List Step :=
  match text.toList.foldlM (Reading.next m) {} with
  | .error steps => steps
  | .ok r =>
      match r.phase with
      | .inside quote => (.unclosed quote :: r.steps).reverse
      | _ =>
          if r.word.isEmpty || m.stop = some r.text then r.steps.reverse
          else r.closed.steps.reverse

/-- Takes a text apart at a delimiter. -/
def readPieces (delimiter : Char) (limit : Nat) (text : String) : List Step :=
  go (recordsOf delimiter text)
where
  /-- The steps for pieces. -/
  go : List String → List Step
    | [] => []
    | piece :: rest =>
        if limit < piece.length then [.tooLong] else .word piece :: .line :: go rest

/-! ## Command lines -/

/-- A command line in the making. -/
structure Gathering where
  /-- The arguments, the latest first. -/
  words : List String := []
  count : Nat := 0
  size : Nat := 0
  lines : Nat := 0
  /-- Whether a program has been run, and whether one has failed. -/
  ran : Bool := false
  failed : Bool := false

/-- Fails at once. -/
def stopWith (self text : String) (status : Nat) : Run Unit := do
  fail self text status
  throw .failed

/-- Runs a program: whether it has failed. -/
def call (start : Starter) (self : String) (s : Settings) (name : String)
    (arguments : List String) : Run Bool := do
  if s.traced then
    tell (" ".intercalate ((name :: arguments).map commandForm))
    if s.asks then
      stopWith self "failed to open /dev/tty for reading: No such device or address" 1
    tell "\n"
  if let some slot := s.slot then putVariable slot { value := some "0", exported := true }
  modifyShell fun s => { s with tellsEnds := false, endedBy := none }
  match ← startNamed start name arguments with
  | some fault => stopWith self (name ++ ": " ++ fault.words) (statusOfFault fault)
  | none =>
      if let some signal := (← shell).endedBy then
        stopWith self (name ++ ": terminated by signal " ++ toString signal) 125
      if (← shell).status = 255 then
        stopWith self (name ++ ": exited with status 255; aborting") 124
  return (← shell).status ≠ 0

/-- Runs what has been gathered. -/
def Gathering.flush (start : Starter) (self : String) (s : Settings) (command : List String)
    (g : Gathering) : Run Gathering := do
  let failed ← call start self s (command.headD "echo") (command.drop 1 ++ g.words.reverse)
  return { ran := true, failed := g.failed || failed }

/-- Takes steps, one after the other. -/
def gather (start : Starter) (self : String) (s : Settings) (command : List String) (room : Nat) :
    Gathering → List Step → Run Gathering
  | g, [] => return g
  | g, step :: rest => do
      let flush (g : Gathering) : Run Gathering := g.flush start self s command
      let anyway (g : Gathering) : Run Gathering :=
        if g.count = 0 || s.strict || s.mark.isSome then pure g else flush g
      match step with
      | .zero =>
          say self ("WARNING: a NUL character occurred in the input." ++
            "  It cannot be passed through in " ++
            "the argument list.  Did you mean to use the --null option?")
          gather start self s command room g rest
      | .unclosed quote =>
          let g ← anyway g
          stopWith self ("unmatched " ++ (if quote = '"' then "double" else "single") ++
            " quote; by default quotes are special to xargs unless you use the -0 option") 1
          return g
      | .tooLong =>
          let g ← anyway g
          stopWith self "argument line too long" 1
          return g
      | .line =>
          let g := { g with lines := g.lines + 1 }
          let g ← if s.lines.any (· ≤ g.lines) && 0 < g.count then flush g else pure g
          gather start self s command room g rest
      | .word text =>
          match s.mark with
          | some mark =>
              let fixed := command.drop 1
              let words := fixed.map fun (word : String) =>
                if mark = "" then word else word.replace mark text
              let failed ← call start self s (command.headD "echo") words
              let g := { g with ran := true, failed := g.failed || failed }
              gather start self s command room g rest
          | none =>
              let size := text.utf8ByteSize + 1
              let g ← if g.size + size ≤ room then pure g
                else if g.count = 0 then do
                  stopWith self "cannot fit single argument within argument list size limit" 1
                  pure g
                else if s.strict && (s.count.isSome || s.lines.isSome) then do
                  stopWith self "argument list too long" 1
                  pure g
                else flush g
              let g := { g with
                words := text :: g.words, count := g.count + 1, size := g.size + size }
              let g ← if s.count.any (· ≤ g.count) then flush g else pure g
              gather start self s command room g rest

end Arguments

/-- The options of a tool that runs programs with arguments. -/
def argumentOptions : String :=
  "+ 0,null a,arg-file= d,delimiter= e,eof=? i,replace=? l,max-lines=? n,max-args= " ++
    "o,open-tty p,interactive r,no-run-if-empty s,max-chars= t,verbose --show-limits x,exit " ++
    "P,max-procs= --process-slot-var= --version --help E= I= L="

/-- Runs a program with arguments from the input. -/
def withArguments (start : Starter) : Tool := fun self arguments =>
  withSettings argumentOptions {} Arguments.Settings.step self arguments fun s operands => do
    for text in s.remarks.reverse do say self text
    if s.delimiter.isSome && s.stop.isSome then
      say self "warning: the -E option has no effect if -0 or -d is used.\n"
    let command := if operands.isEmpty then ["echo"] else operands
    let text ← match s.source with
      | none => do
          let read ← readStream 0 .whole
          if let .ok number ← openPath "/dev/null" .input then lead 0 (some number)
          pure (.ok ((read.map ByteText.ofBytes).toOption.getD ""))
      | some path => do
          match ← readOperand path .whole with
          | .error .isADirectory => pure (.ok "")
          | read => pure read
    match text with
    | .error fault =>
        fail self ("Cannot open input file " ++ quoted (s.source.getD "") ++ ": " ++ fault.words)
    | .ok text =>
        let fixed := sumOf (command.map fun word => word.utf8ByteSize + 1)
        if s.mark.isNone && s.size < fixed then
          fail self "cannot fit single argument within argument list size limit"
        else
          let limit := s.size - (if s.mark.isSome then 0 else fixed) - 1
          let steps := match s.delimiter with
            | some delimiter => Arguments.readPieces delimiter limit text
            | none => Arguments.readWords ⟨s.mark.isSome, s.stop, limit⟩ text
          let g ← Arguments.gather start self s command (s.size - fixed) {} steps
          let rest := 0 < g.count || (s.mark.isNone && !s.idle && !g.ran)
          let g ← if rest then g.flush start self s command else pure g
          finish (if g.failed then 123 else 0)

end WasmBinary.Machine.Script.Tool
