/-
  A program that works on records, while it runs.

  1. **Variables** are global, or belong to a function that was called.  A slot holds a value or an
     array.

  2. **The record** is a text, and its fields when they are asked for.  A field that changes changes
     the record.

  3. **Streams** — files and commands that are read from or written to stay open until they are
     closed.  What is written to them is kept back for a while.
-/
import WasmBinary.Machine.Script.Regex.Matching
import WasmBinary.Machine.Script.Tool.Records.Reading
import WasmBinary.Machine.Script.Tool.Records.Table
import WasmBinary.Machine.Script.Tool.Starting

namespace WasmBinary.Machine.Script.Tool.Records

open Run

/-- What a variable stands for. -/
inductive Slot
  | value (v : Value)
  | table (number : Nat)
deriving Inhabited

/-- Something that is read from, with what is left of it. -/
structure Input where
  text : Array Char
  position : Nat := 0
  status : Nat := 0

/-- Something that is written to. -/
structure Output where
  destination : Destination
  /-- The number under which a file is open. -/
  number : Option Nat := none
  kept : String := ""

/-- All that a program has while it runs. -/
structure Execution where
  self : String
  functions : Std.HashMap String Function
  /-- Which parameters of functions are arrays. -/
  arrays : Std.HashMap String (List Bool)
  globals : Std.HashMap String Slot := {}
  frames : List (Std.HashMap String Slot) := []
  tables : Array Table := #[]
  record : Value := .seen ""
  /-- The fields, if they are known. -/
  fields : Option (Array Value) := some #[]
  /-- What separated fields when the record came. -/
  separator : String := " "
  /-- Whether the record has to be made of its fields. -/
  stale : Bool := false
  /-- The file that is read, if one is. -/
  main : Option Input := none
  /-- The next operand that is looked at. -/
  operand : Nat := 1
  /-- Whether any operand was a file. -/
  opened : Bool := false
  exhausted : Bool := false
  inputs : List (Bool × String × Input) := []
  outputs : List (String × Output) := []
  kept : String := ""
  ranges : List Nat := []
  regexes : Std.HashMap String Regex := {}
  status : Nat := 0
  seed : Float := 0.0
  random : UInt64 := 88172645463325252
  steps : Nat := 0

/-- How a program leaves what it does. -/
inductive Leap
  | nextRecord
  | nextFile
  /-- The rules for the end are still to come. -/
  | stop
  /-- Nothing more is done. -/
  | failed

/-- Work of a program. -/
abbrev Work := ExceptT Leap (StateT Execution Run)

/-- How many steps a program may take until it is thought to have no end. -/
def mostSteps : Nat := 6000000

/-- Counts a step. -/
def countStep : Work Unit := do
  let m ← get
  if mostSteps < m.steps then (waitForEver : Run Unit)
  else modify fun m => { m with steps := m.steps + 1 }

/-! ## Output -/

/-- Writes all that was kept back, to the output. -/
def flushMain : Work Unit := do
  let m ← get
  if m.kept ≠ "" then
    modify fun m => { m with kept := "" }
    (emit m.kept : Run Unit)

/-- Writes what was kept back for a file. -/
def flushOutput (name : String) : Work Unit := do
  let m ← get
  let opened := (m.outputs.lookup name).bind fun o => o.number.map fun number => (number, o.kept)
  match opened with
  | some (number, kept) =>
      let fault ← (writeOpened number (ByteText.toBytes kept) : Run _)
      if let some fault := fault then
        (modifyWorld fun w => { w with unwritten := some fault } : Run Unit)
      modify fun m => { m with outputs := m.outputs.map fun entry =>
        if entry.1 = name then (name, { entry.2 with kept := "" }) else entry }
  | none => return

/-- Writes all that was kept back. -/
def flushAll : Work Unit := do
  flushMain
  for (name, _) in (← get).outputs.reverse do flushOutput name

/-- Says something and ends the program. -/
def giveUp {α : Type} (lines : List String) : Work α := do
  for line in lines do (tell (line ++ "\n") : Run Unit)
  modify fun m => { m with status := 2 }
  throw .failed

/-- The value of a global variable. -/
def globalValue (name : String) : Work Value := do
  match (← get).globals.get? name with
  | some (.value v) => return v
  | _ => return .nothing

/-- Gives a global variable a value. -/
def putGlobal (name : String) (v : Value) : Work Unit :=
  modify fun m => { m with globals := m.globals.insert name (.value v) }

/-- A number as a text, by a format for those that are not whole. -/
def numberText (format : String) (x : Float) : String :=
  match Value.integer? x with
  | some n => toString n
  | none => Value.written (styleOf format).1 (styleOf format).2 x
where
  /-- The style and the letter of a format for one number. -/
  styleOf (format : String) : Numeral.Style × Char :=
    let cs := format.toList.drop 1
    let flags := cs.takeWhile fun c => "-+ #0".toList.contains c
    let cs := cs.drop flags.length
    let width := cs.takeWhile Char.isDigit
    let cs := cs.drop width.length
    let (precision, cs) := match cs with
      | '.' :: more =>
          let digits := more.takeWhile Char.isDigit
          (some (Nat.ofDigitChars 10 digits 0), more.drop digits.length)
      | _ => (none, cs)
    ({ left := flags.contains '-', plus := flags.contains '+', blank := flags.contains ' '
       zeros := flags.contains '0', alternative := flags.contains '#'
       width := Nat.ofDigitChars 10 width 0, precision },
      (cs.head?.filter fun c => "eEfFgGaA".toList.contains c).getD 'g')

/-- The text of a value, by the format of a variable. -/
def textBy (name : String) (v : Value) : Work String := do
  match v with
  | .nothing => return ""
  | .text s | .seen s => return s
  | .number x =>
      match Value.integer? x with
      | some n => return toString n
      | none =>
          let format := match ← globalValue name with
            | .text s | .seen s => s
            | _ => "%.6g"
          if format = "%d" || format = "%i" then return toString ((Value.whole? x).getD 0)
          else return numberText format x

/-- The text of a value. -/
def textOf (v : Value) : Work String := textBy "CONVFMT" v

/-- Ends the program with an error that came up while it ran. -/
def runError {α : Type} (text : String) : Work α := do
  let m ← get
  let file ← textOf (← globalValue "FILENAME")
  let count (name : String) : Work String := do textOf (.number (← globalValue name).toNumber)
  giveUp [m.self ++ ": run time error: " ++ text,
    "\tFILENAME=\"" ++ file ++ "\" FNR=" ++ (← count "FNR") ++ " NR=" ++ (← count "NR")]

/-! ## Regular expressions -/

/-- The regular expression that a text is. -/
def regexOf (source : String) : Work Regex := do
  match (← get).regexes.get? source with
  | some r => return r
  | none =>
      match Regex.parse .records source with
      | .ok (r, _) =>
          modify fun m => { m with regexes := m.regexes.insert source r }
          return r
      | .error fault =>
          giveUp [(← get).self ++ ": " ++ regexFault fault source]

/-- Whether a text has a match. -/
def fits (source text : String) : Work Bool := do
  let r ← regexOf source
  return (Regex.Searcher.of { text := text.toList.toArray } r).found

/-! ## Fields -/

/-- The pieces of a text between the matches of an expression that are not empty. -/
def piecesBetween (s : Regex.Searcher) : Nat → (start behind : Nat) → List String
  | 0, _, _ => []
  | n + 1, start, behind =>
      let text := s.line.text
      let slice (i j : Nat) : String := String.ofList (text.extract i j).toList
      match s.next? behind with
      | none => [slice start text.size]
      | some m =>
          if m.last ≤ m.first then
            if text.size ≤ m.first then [slice start text.size]
            else piecesBetween s n start (m.first + 1)
          else slice start m.first :: piecesBetween s n m.last m.last

/-- The fields of a text. -/
def fieldsOf (separator : String) (paragraphs : Bool) (text : String) : Work (List String) := do
  if text = "" then return []
  match separator.toList with
  | [' '] =>
      let isGap (c : Char) : Bool := c = ' ' || c = '\t' || c = '\n'
      return (text.splitToList isGap).filter (· ≠ "")
  | [] => return text.toList.map Char.toString
  | [c] =>
      if paragraphs then return text.splitToList fun d => d = c || d = '\n'
      else return text.splitToList (· = c)
  | _ =>
      let r ← regexOf separator
      let r := if paragraphs then Regex.alt r (.char '\n') else r
      let line : Regex.Line := { text := text.toList.toArray }
      return piecesBetween (Regex.Searcher.of line r) (text.length + 2) 0 0

/-- The separator of fields as it is now. -/
def separatorNow : Work String := do textOf (← globalValue "FS")

/-- Makes a text the record. -/
def putRecord (v : Value) : Work Unit := do
  let separator ← separatorNow
  modify fun m => { m with record := v, fields := none, stale := false, separator }

/-- The fields of the record. -/
def fieldsHere : Work (Array Value) := do
  let m ← get
  match m.fields with
  | some fields => return fields
  | none =>
      let text ← textOf m.record
      let paragraphs := (← textOf (← globalValue "RS")) = ""
      let fields := ((← fieldsOf m.separator paragraphs text).map Value.seen).toArray
      modify fun m => { m with fields := some fields }
      return fields

/-- The record. -/
def recordHere : Work Value := do
  let m ← get
  if !m.stale then return m.record
  else
    let between ← textOf (← globalValue "OFS")
    let texts ← (← fieldsHere).toList.mapM textOf
    let record := Value.seen (between.intercalate texts)
    modify fun m => { m with record, stale := false }
    return record

/-- The value of a field. -/
def fieldAt (i : Nat) : Work Value := do
  if i = 0 then recordHere
  else return (← fieldsHere)[i - 1]?.getD (.seen "")

/-- Fills fields up, or cuts them off, so that they are so many. -/
def resized (fields : Array Value) (count : Nat) : Array Value :=
  (fields.toList.take count ++ List.replicate (count - fields.size) (Value.seen "")).toArray

/-- Gives a field a value. -/
def putField (i : Nat) (v : Value) : Work Unit := do
  if i = 0 then putRecord v
  else
    let fields ← fieldsHere
    let fields := if fields.size < i then resized fields i else fields
    modify fun m => { m with fields := some (fields.setIfInBounds (i - 1) v), stale := true }

/-! ## Variables -/

/-- The slot of a name. -/
def slotOf? (name : String) : Work (Option Slot) := do
  let m ← get
  match m.frames.head?.bind fun frame => frame.get? name with
  | some slot => return some slot
  | none => return m.globals.get? name

/-- Puts something into the slot of a name. -/
def putSlot (name : String) (slot : Slot) : Work Unit :=
  modify fun m =>
    match m.frames with
    | frame :: others =>
        if frame.contains name then { m with frames := frame.insert name slot :: others }
        else { m with globals := m.globals.insert name slot }
    | [] => { m with globals := m.globals.insert name slot }

/-- The value of a variable. -/
def variableValue (name : String) : Work Value := do
  if name = "NF" then return .ofNat (← fieldsHere).size
  match ← slotOf? name with
  | some (.value v) => return v
  | _ => return .nothing

/-- Gives a variable a value. -/
def putVariable (name : String) (v : Value) : Work Unit := do
  if name = "NF" then
    let count := ((Value.whole? v.toNumber).getD 0).toNat
    let fields ← fieldsHere
    modify fun m => { m with fields := some (resized fields count), stale := true }
  else putSlot name (.value v)

/-- The number of an array; a new one if the name has none yet. -/
def tableNumber (name : String) : Work Nat := do
  match ← slotOf? name with
  | some (.table number) => return number
  | _ =>
      let number := (← get).tables.size
      modify fun m => { m with tables := m.tables.push {} }
      putSlot name (.table number)
      return number

/-- The array of a number. -/
def tableAt (number : Nat) : Work Table := return (← get).tables.getD number {}

/-- Changes an array. -/
def changeTable (number : Nat) (f : Table → Table) : Work Unit :=
  modify fun m => { m with tables := m.tables.modify number f }

/-- The key that a value is. -/
def keyOf (v : Value) : Work Key := do
  match v with
  | .number x =>
      match Value.integer? x with
      | some n => if n < Nat.pow 2 63 then return .whole n else return .text (toString n)
      | none => return .text (← textOf v)
  | v => return .text (← textOf v)

end WasmBinary.Machine.Script.Tool.Records
