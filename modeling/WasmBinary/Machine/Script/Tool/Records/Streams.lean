/-
  What a program reads and writes.

  1. **Records** end with a character, with empty lines, or with what an expression matches.

  2. **Operands** are files that are read one after the other, or assignments that count from there
     on.  If there is no file among them, the input is read.

  3. **Lines** also come from files and from commands that the program names.

  4. **Output** goes to files and to commands.  A command starts when it is closed.
-/
import WasmBinary.Machine.Script.Tool.Records.State

namespace WasmBinary.Machine.Script.Tool.Records

open Run

/-! ## Records -/

/-- The first place from a place on where a test holds, or the end. -/
def placeFrom (text : Array Char) (test : Char → Bool) : Nat → Nat → Nat
  | 0, i => i
  | n + 1, i => if text[i]?.any fun c => !test c then placeFrom text test n (i + 1) else i

/-- Where the next empty line starts behind a line, from a place on, or the end. -/
def emptyLineFrom (text : Array Char) : Nat → Nat → Nat
  | 0, i => i
  | n + 1, i =>
      let lineEnd := placeFrom text (· = '\n') text.size i
      if text.size ≤ lineEnd + 1 || text[lineEnd + 1]? = some '\n' then lineEnd
      else emptyLineFrom text n (lineEnd + 1)

/-- The next record, and what is left. -/
def nextRecord? (ending : String) (input : Input) : Work (Option (String × Input)) := do
  let text := input.text
  let slice (i j : Nat) : String := String.ofList (text.extract i j).toList
  match ending.toList with
  | [] =>
      let start := placeFrom text (· ≠ '\n') text.size input.position
      if text.size ≤ start then return none
      else
        let last := emptyLineFrom text (text.size + 1) start
        let next := placeFrom text (· ≠ '\n') text.size last
        return some (slice start last, { input with position := next })
  | [c] =>
      let start := input.position
      if text.size ≤ start then return none
      else
        let last := placeFrom text (· = c) text.size start
        return some (slice start last, { input with position := last + 1 })
  | _ =>
      let start := input.position
      if text.size ≤ start then return none
      else
        let r ← regexOf ending
        let rest := text.extract start text.size
        match (Regex.Searcher.of { text := rest } r).next? 0 with
        | some m =>
            if m.first < m.last then
              return some (slice start (start + m.first), { input with position := start + m.last })
            else return some (slice start text.size, { input with position := text.size })
        | none => return some (slice start text.size, { input with position := text.size })

/-- What ends records as it is now. -/
def endingNow : Work String := do textOf (← globalValue "RS")

/-- The text of a file as something that is read from. -/
def inputOf (path : String) : Work (Except FileFault Input) := do
  match ← (readOperand path .flow : Run _) with
  | .ok text => return .ok { text := text.toList.toArray }
  | .error fault => return .error fault

/-- Ends the program as something cannot be opened. -/
def cannotOpen {α : Type} (path purpose words : String) : Work α := do
  giveUp [(← get).self ++ ": cannot open \"" ++ path ++ "\"" ++ purpose ++ " (" ++ words ++ ")"]

/-- Ends the program as a directory cannot be read. -/
def cannotRead {α : Type} : Work α := do
  giveUp [(← get).self ++ ": read error (" ++ FileFault.isADirectory.words ++ ")"]

/-- Opens a file as the one that records come from. -/
def openMain (path : String) : Work Unit := do
  match ← inputOf path with
  | .ok input =>
      modify fun m => { m with main := some input, opened := true }
      putGlobal "FILENAME" (.text path)
      putGlobal "FNR" (.number 0.0)
  | .error .isADirectory => cannotRead
  | .error fault =>
      if path = "-" then giveUp [(← get).self ++ ": read error (" ++ fault.words ++ ")"]
      else cannotOpen path "" fault.words

/-- The name and the text of an assignment that an operand is. -/
def assignment? (operand : String) : Option (String × String) :=
  let cs := operand.toList
  let name := cs.takeWhile Token.isNamePart
  if name.head?.any Char.isDigit || name.isEmpty || (cs.drop name.length).head? ≠ some '=' then none
  else some (String.ofList name, String.ofList (cs.drop (name.length + 1)))

/-- Opens the next file: whether there is one. -/
def openNext : Nat → Work Bool
  | 0 => return false
  | n + 1 => do
      let m ← get
      let count := ((Value.whole? (← globalValue "ARGC").toNumber).getD 0).toNat
      if m.operand < count then
        modify fun m => { m with operand := m.operand + 1 }
        let words ← tableAt (← tableNumber "ARGV")
        let key := Key.whole m.operand
        let word ← if words.has key then textOf (words.get key) else pure ""
        if word = "" then openNext n
        else
          match assignment? word with
          | some (name, text) =>
              putVariable name (.seen (Token.unescape text))
              openNext n
          | none =>
              openMain word
              return true
      else if m.opened then return false
      else
        openMain "-"
        return true

/-- The next record of the files. -/
def nextMain : Nat → Work (Option String)
  | 0 => return none
  | n + 1 => do
      match (← get).main with
      | some input =>
          match ← nextRecord? (← endingNow) input with
          | some (record, rest) =>
              modify fun m => { m with main := some rest }
              return some record
          | none =>
              modify fun m => { m with main := none }
              nextMain n
      | none =>
          let count := ((Value.whole? (← globalValue "ARGC").toNumber).getD 0).toNat
          if ← openNext (count + 2) then nextMain n else return none

/-- The next record of the files. -/
def nextOfFiles : Work (Option String) := do
  let count := ((Value.whole? (← globalValue "ARGC").toNumber).getD 0).toNat
  nextMain (2 * count + 8)

/-- Counts a record. -/
def countRecord : Work Unit := do
  for name in ["NR", "FNR"] do
    putGlobal name (.number ((← globalValue name).toNumber + 1.0))

/-! ## Lines -/

/-- What is read from by a name, opened if it is not open yet: nothing if that is impossible. -/
def inputNamed (start : Starter) (isCommand : Bool) (name : String) : Work (Option Input) := do
  let found := (← get).inputs.find? fun (c, other, _) => c = isCommand && other = name
  match found with
  | some (_, _, input) => return some input
  | none =>
      let input? : Option Input ←
        if isCommand then do
          flushAll
          let (text, status) ← (outputOf start "/bin/sh" name : Run _)
          pure (some { text := text.toList.toArray, status })
        else do
          match ← inputOf name with
          | .ok input => pure (some input)
          | .error .isADirectory => cannotRead
          | .error _ => pure none
      if let some input := input? then
        modify fun m => { m with inputs := (isCommand, name, input) :: m.inputs }
      return input?

/-- The next line of a file or of a command: nothing if it has ended, and a fault if it cannot be
    opened. -/
def nextLineOf (start : Starter) (isCommand : Bool) (name : String) :
    Work (Except Unit (Option String)) := do
  match ← inputNamed start isCommand name with
  | none => return .error ()
  | some input =>
      match ← nextRecord? (← endingNow) input with
      | none => return .ok none
      | some (line, rest) =>
          modify fun m => { m with inputs := m.inputs.map fun entry =>
            if entry.1 = isCommand && entry.2.1 = name then (isCommand, name, rest) else entry }
          return .ok (some line)

/-! ## Output -/

/-- Keeps back a text for the output. -/
def writeMain (text : String) : Work Unit := do
  modify fun m => { m with kept := m.kept ++ text }
  if 4096 < (← get).kept.utf8ByteSize then flushMain

/-- Writes a text to where a destination says. -/
def writeTo (destination : Destination) (name text : String) : Work Unit := do
  if destination ≠ .command && (name = "/dev/stdout" || name = "-") then writeMain text
  else if destination ≠ .command && name = "/dev/stderr" then (tell text : Run Unit)
  else
    if ((← get).outputs.lookup name).isNone then
      let number ← match destination with
        | .command =>
            flushAll
            pure none
        | d =>
            let opening := if d = .append then Opening.append else .replace
            match ← (openPath name opening : Run _) with
            | .ok number => pure (some number)
            | .error fault => cannotOpen name " for output" fault.words
      modify fun m => { m with outputs := (name, { destination, number }) :: m.outputs }
    modify fun m => { m with outputs := m.outputs.map fun entry =>
      if entry.1 = name then (name, { entry.2 with kept := entry.2.kept ++ text }) else entry }
    if 4096 < (((← get).outputs.lookup name).map fun o => o.kept.utf8ByteSize).getD 0 then
      flushOutput name

/-- The status of a command as programs see it. -/
def seenStatus (status : Nat) : Nat := if 128 < status then status + 128 else status

/-- Closes what is written to: its status. -/
def closeOutput (start : Starter) (name : String) (o : Output) : Work Nat := do
  flushOutput name
  modify fun m => { m with outputs := m.outputs.filter fun entry => entry.1 ≠ name }
  if o.destination = .command then
    return seenStatus (← (statusOn start "/bin/sh" name o.kept : Run _))
  else return 0

/-- Closes what has a name: its status, or a negative number if nothing has it. -/
def closeNamed (start : Starter) (name : String) : Work Float := do
  match (← get).outputs.lookup name with
  | some o => return (← closeOutput start name o).toFloat
  | none =>
      match (← get).inputs.find? fun (_, other, _) => other = name with
      | some (_, _, input) =>
          modify fun m => { m with inputs := m.inputs.filter fun (_, other, _) => other ≠ name }
          return (seenStatus input.status).toFloat
      | none => return -1.0

/-- Closes everything. -/
def closeAll (start : Starter) : Work Unit := do
  for (name, o) in (← get).outputs do
    let _ ← closeOutput start name o
  flushMain

end WasmBinary.Machine.Script.Tool.Records
