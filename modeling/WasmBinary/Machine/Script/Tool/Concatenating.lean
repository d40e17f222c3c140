/-
  Tools that pass bytes on: one file behind the other, to several files at once, or a line again and
  again.
-/
import WasmBinary.Machine.Script.Tool.Basic

namespace WasmBinary.Machine.Script.Tool

open Run

/-! ## One behind the other -/

/-- A control character and what is above ASCII in visible form. -/
def visible (c : Char) : List Char :=
  let low (n : Nat) : List Char :=
    if n < 32 then ['^', Char.ofNat (n + 64)] else if n = 127 then ['^', '?'] else [Char.ofNat n]
  if c = '\n' || c = '\t' then [c]
  else if c.toNat < 128 then low c.toNat else 'M' :: '-' :: low (c.toNat - 128)

/-- Lines with numbers in front. -/
def numberedLines (filledOnly : Bool) : Nat → List String → List String
  | _, [] => []
  | n, line :: rest =>
      if filledOnly && line = "\n" then line :: numberedLines filledOnly n rest
      else (padded 6 n ++ "\t" ++ line) :: numberedLines filledOnly (n + 1) rest

/-- Lines without empty ones behind empty ones. -/
def squeezed : Bool → List String → List String
  | _, [] => []
  | behind, line :: rest =>
      let empty := line = "\n"
      if behind && empty then squeezed true rest else line :: squeezed empty rest

/-- A line whose end can be seen. -/
def withVisibleEnd (line : String) : String :=
  match line.toList.reverse with
  | '\n' :: '\x0d' :: rest => String.ofList rest.reverse ++ "^M$\n"
  | '\n' :: rest => String.ofList rest.reverse ++ "$\n"
  | _ => line

/-- A text as the options of `cat` want to see it. -/
def dressed (u : Usage) (text : String) : String :=
  let on (letters : String) : Bool := letters.any fun letter => u.has letter
  let lines := linesOf text
  let lines := if on "s" then squeezed false lines else lines
  let lines := if on "EAe" then lines.map withVisibleEnd else lines
  let lines := if on "vAet" then
      lines.map fun line => String.ofList (line.toList.flatMap visible)
    else lines
  let lines := if on "TAt" then lines.map fun line => line.replace "\t" "^I" else lines
  String.join (if on "b" then numberedLines true 1 lines
    else if on "n" then numberedLines false 1 lines else lines)

/-- Whether what is open is the file that the output goes to, and something of it is left to
    read. -/
def feedsItself (number : Nat) : Run Bool := do
  let some output ← opening? 1 | return false
  match ← openedAt? number, ← openedAt? output with
  | some source, some target =>
      match source.target, target.target with
      | .node i, .node j =>
          if i ≠ j then return false else return source.position < (← fileSize i)
      | _, _ => return false
  | _, _ => return false

/-- The text of an operand for `cat`; what is wrong with it is told. -/
def catOperand (self path : String) : Run (Option String) := do
  let fail (words : String) : Run (Option String) := do
    say self (shown path ++ ": " ++ words)
    return none
  match ← openOperand path with
  | .error fault => fail fault.words
  | .ok number =>
      if ← feedsItself number then fail "input file is output file"
      else
        match ← readOpened number .flow with
        | .ok data => return some (ByteText.ofBytes data)
        | .error fault => fail fault.words

/-- Writes files one after the other. -/
def concatenate : Tool := fun self arguments =>
  withUsage ("b,number-nonblank e n,number s,squeeze-blank t u v,show-nonprinting " ++
      "E,show-ends T,show-tabs A,show-all") self arguments fun u => do
    if (← opening? 1).isNone then return ← fail self "standard output: Bad file descriptor"
    if u.options.all fun option => option.key = "u" then
      forEach (orInput u.operands) fun path => do
        match ← catOperand self path with
        | some text =>
            emit text
            return true
        | none => return false
    else
      let texts ← (orInput u.operands).mapM (catOperand self)
      emit (dressed u (String.join (texts.filterMap id)))
      finishWith (texts.all Option.isSome)

/-! ## To several files at once -/

/-- Writes the input to the output and to files. -/
def tee : Tool := fun self arguments =>
  let check (_ : Unit) (option : Given) : Except Misuse Unit :=
    if option.key = "output-error" && option.valued then do
      let _ ← choiceOf ["warn", "warn-nopipe", "exit", "exit-nopipe"] option.value "--output-error"
    else .ok ()
  withSettings "a,append i,ignore-interrupts p --output-error=?" () check self arguments
    fun _ operands => do
      let appends := (usageFor "a,append i,ignore-interrupts p --output-error=?" arguments).has 'a'
      let targets ← operands.mapM fun path => do
        match ← openPath path (if appends then .append else .replace) with
        | .ok number => return some (path, number)
        | .error fault =>
            say self (shown path ++ ": " ++ fault.words)
            return none
      match ← readStream 0 .flow with
      | .error fault => fail self ("read error: " ++ fault.words)
      | .ok data =>
          let results ← (targets.filterMap id).mapM fun (path, number) => do
            match ← writeOpened number data with
            | some fault =>
                say self (shown path ++ ": " ++ fault.words)
                return false
            | none => return true
          emit (ByteText.ofBytes data)
          finishWith (targets.all Option.isSome && results.all id)

/-! ## Again and again -/

/-- Writes a line again and again. -/
def repeatLine : Tool := fun self arguments =>
  withUsage "" self arguments fun u => do
    let words := if u.operands.isEmpty then ["y"] else u.operands
    let line := " ".intercalate words ++ "\n"
    match ← room with
    | none =>
        emit line
        if (← get).world.unwritten.isSome then finish 1 else waitForEver
    | some count => emit (String.join (List.replicate (count / line.length + 1) line))

/-! ## Backwards -/

/-- The characters of a line in reverse. -/
def reverseLines : Tool := fun self arguments =>
  withUsage "V h" self arguments fun u =>
    forEach (orInput u.operands) fun path => do
      match ← readOperand path .flow with
      | .error fault =>
          say self ("cannot open " ++ path ++ ": " ++ fault.words)
          return false
      | .ok text =>
          emit (String.join ((linesOf text).map fun line =>
            String.ofList (bare line).toList.reverse ++ (if line.endsWith "\n" then "\n" else "")))
          return true

/-- The pieces of a text that a separator ends, or that it starts, in reverse. -/
def backwardPieces (separator : String) (before : Bool) (text : String) : String :=
  let parts := text.splitOn separator
  if separator = "" then text
  else if before then
    match parts with
    | [] => ""
    | first :: rest => String.join ((rest.map (separator ++ ·)).reverse) ++ first
  else
    let ended := parts.dropLast.map (· ++ separator)
    let last := parts.getLast?.getD ""
    String.join ((ended ++ if last = "" then [] else [last]).reverse)

/-- Writes files, the last line first. -/
def backward : Tool := fun self arguments =>
  withUsage "b,before r,regex s,separator=" self arguments fun u => do
    let separator := (u.value? 's').getD "\n"
    let separator := if separator = "" then "\x00" else separator
    forEach (orInput u.operands) fun path => do
      match ← openOperand path with
      | .error fault =>
          say self ("failed to open " ++ quoted path ++ " for reading: " ++ fault.words)
          return false
      | .ok number =>
          match ← readOpened number .whole with
          | .error fault =>
              let name := if path = "-" then "standard input" else path
              let fault := if fault = .isADirectory then .other "Invalid argument" else fault
              say self (shown name ++ ": read error: " ++ fault.words)
              return false
          | .ok data =>
              emit (backwardPieces separator (u.has 'b') (ByteText.ofBytes data))
              return true

end WasmBinary.Machine.Script.Tool
