/-
  The tool that copies block by block.

  1. **Operands** have names.  Amounts may be products, and count blocks or bytes.

  2. **Conversions** change what was read: letters, pairs of bytes, the end of records, and blocks
     that are not full.

  3. **Counts** — at the end it is told how many blocks were read and written, those that were full
     and those that were not.
-/
import WasmBinary.Machine.Script.Tool.Basic

namespace WasmBinary.Machine.Script.Tool

open Run

namespace Blocks

/-- An amount of blocks, or of bytes. -/
structure Measure where
  count : Nat
  bytes : Bool := false

/-- How many bytes a measure comes to. -/
def Measure.inBytes (m : Measure) (size : Nat) : Nat := if m.bytes then m.count else m.count * size

/-- What is copied, and how. -/
structure Settings where
  source : Option String := none
  target : Option String := none
  /-- The size of blocks that are read and written. -/
  size : Option Nat := none
  inputSize : Nat := 512
  outputSize : Nat := 512
  recordSize : Nat := 0
  count : Option Measure := none
  skipped : Measure := ⟨0, false⟩
  sought : Measure := ⟨0, false⟩
  conversions : List String := []
  inputFlags : List String := []
  outputFlags : List String := []
  level : String := ""

namespace Settings

/-- The letters for multipliers. -/
def multipliers : String := "bcwkKMGTPEZYRQ0"

/-- The amount that a text is, which may be a product. -/
def product (text : String) : Except AmountFault Nat := do
  let factors ← (text.splitOn "x").mapM fun factor => do
    if factor.toList.head?.any Char.isDigit then amount multipliers factor else throw .invalid
  let n := factors.foldl (· * ·) 1
  if n < Nat.pow 2 63 then return n else throw .tooLarge

/-- What is told about a value that is no number. -/
def notNumber (text : String) (fault : AmountFault) : Misuse :=
  .plain ("invalid number: " ++ quoted text ++ fault.ending)

/-- The size that a text is. -/
def sizeOf (text : String) : Except Misuse Nat :=
  match product text with
  | .ok 0 => .error (notNumber text .invalid)
  | .ok n => .ok n
  | .error fault => .error (notNumber text fault)

/-- The measure that a text is. -/
def measureOf (text : String) : Except Misuse Measure :=
  let inBytes := match text.toList.reverse with
    | 'B' :: c :: _ => c.isDigit
    | _ => false
  match product (if inBytes then (text.dropEnd 1).toString else text) with
  | .ok count => .ok { count, bytes := inBytes }
  | .error fault => .error (notNumber text fault)

/-- The words that a value lists, which have to be known. -/
def wordsOf (known : List String) (what value : String) : Except Misuse (List String) := do
  let words := value.splitOn ","
  match words.find? fun word => !known.contains word with
  | some word => throw (.hinted ("invalid " ++ what ++ ": " ++ quoted word))
  | none => return words

/-- The conversions that are known. -/
def conversionNames : List String :=
  [ "ascii", "ebcdic", "ibm", "block", "unblock", "lcase", "ucase", "sparse", "swab", "noerror",
    "nocreat", "excl", "notrunc", "sync", "fdatasync", "fsync" ]

/-- The flags that are known. -/
def flagNames : List String :=
  [ "append", "cio", "direct", "directory", "dsync", "noatime", "nocache", "noctty", "nofollow",
    "nolinks", "nonblock", "sync", "text", "fullblock", "count_bytes", "skip_bytes", "seek_bytes" ]

/-- Takes an operand into account. -/
def add (s : Settings) (operand : String) : Except Misuse Settings := do
  let name := String.ofList (operand.toList.takeWhile (· ≠ '='))
  let value := String.ofList (operand.toList.drop (name.length + 1))
  if name = operand then throw (.hinted ("unrecognized operand " ++ quoted operand))
  match name with
  | "if" => return { s with source := some value }
  | "of" => return { s with target := some value }
  | "conv" =>
      let chosen ← wordsOf conversionNames "conversion" value
      return { s with conversions := s.conversions ++ chosen }
  | "iflag" =>
      return { s with inputFlags := s.inputFlags ++ (← wordsOf flagNames "input flag" value) }
  | "oflag" =>
      return { s with outputFlags := s.outputFlags ++ (← wordsOf flagNames "output flag" value) }
  | "status" =>
      if ["none", "noxfer", "progress"].contains value then return { s with level := value }
      else throw (.hinted ("invalid status level: " ++ quoted value))
  | "bs" => return { s with size := some (← sizeOf value) }
  | "ibs" => return { s with inputSize := ← sizeOf value }
  | "obs" => return { s with outputSize := ← sizeOf value }
  | "cbs" => return { s with recordSize := ← sizeOf value }
  | "count" => return { s with count := some (← measureOf value) }
  | "skip" | "iseek" => return { s with skipped := ← measureOf value }
  | "seek" | "oseek" => return { s with sought := ← measureOf value }
  | _ => throw (.hinted ("unrecognized operand " ++ quoted operand))

/-- Whether something is to be done with what was read. -/
def converts (s : Settings) (name : String) : Bool := s.conversions.contains name

/-- The settings when all operands are known, unless some of them do not go together. -/
def complete (s : Settings) : Except Misuse Settings := do
  let both (a b : String) : Bool := s.converts a && s.converts b
  if both "ascii" "ebcdic" || both "ascii" "ibm" || both "ebcdic" "ibm" then
    throw (.plain "cannot combine any two of \x7bascii,ebcdic,ibm\x7d")
  if both "lcase" "ucase" then throw (.plain "cannot combine lcase and ucase")
  if both "excl" "nocreat" then throw (.plain "cannot combine excl and nocreat")
  let mark (flags : List String) (flag : String) (m : Measure) : Measure :=
    { m with bytes := m.bytes || flags.contains flag }
  return { s with
    inputSize := s.size.getD s.inputSize
    outputSize := s.size.getD s.outputSize
    count := s.count.map (mark s.inputFlags "count_bytes")
    skipped := mark s.inputFlags "skip_bytes" s.skipped
    sought := mark s.outputFlags "seek_bytes" s.sought }

end Settings

/-! ## Conversions -/

/-- Pieces of a size, where the last one may be shorter. -/
def pieces (size : Nat) : Nat → List Char → List (List Char)
  | 0, _ => []
  | n + 1, cs => if cs.isEmpty then [] else cs.take size :: pieces size n (cs.drop size)

/-- Characters with neighbours exchanged. -/
def exchanged : List Char → List Char
  | a :: b :: rest => b :: a :: exchanged rest
  | rest => rest

/-- Lines as records of a size, filled up or cut off, and how many were cut off. -/
def blocked (size : Nat) (cs : List Char) : List Char × Nat :=
  let text := String.ofList cs
  let lines := text.splitOn "\n"
  let lines := if lines.getLast? = some "" then lines.dropLast else lines
  (lines.flatMap fun line => (line.toList.take size).rightpad size ' ',
    (lines.filter fun line => size < line.length).length)

/-- Records of a size as lines, without the blanks at their ends. -/
def unblocked (size : Nat) (cs : List Char) : List Char :=
  (pieces size (cs.length + 1) cs).flatMap fun piece =>
    (piece.reverse.dropWhile (· = ' ')).reverse ++ ['\n']

/-- What comes of the blocks that were read, and how many lines were cut off. -/
def converted (s : Settings) (blocks : List (List Char)) : List (List Char) × Nat :=
  let filler := if s.converts "block" || s.converts "unblock" then ' ' else '\x00'
  let blocks := if s.converts "sync" then blocks.map (·.rightpad s.inputSize filler) else blocks
  let blocks := if s.converts "swab" then blocks.map exchanged else blocks
  let change := if s.converts "ucase" then blocks.map (·.map Char.toUpper)
    else if s.converts "lcase" then blocks.map (·.map Char.toLower) else blocks
  if s.recordSize = 0 then (change, 0)
  else if s.converts "block" then
    let (all, cut) := blocked s.recordSize change.flatten
    ([all], cut)
  else if s.converts "unblock" then ([unblocked s.recordSize change.flatten], 0)
  else (change, 0)

/-- How many blocks are full, and how many are not. -/
def countsOf (size : Nat) (blocks : List (List Char)) : Nat × Nat :=
  let full := (blocks.filter fun block => block.length = size).length
  (full, blocks.length - full)

/-! ## Copying -/

/-- Opens the file that is written to, and goes to the place where that starts. -/
def openTarget (s : Settings) (path : String) : Run (Except FileFault Nat) := do
  let there := (← openPath path .input).toOption.isSome
  if s.converts "nocreat" && !there then return .error .notFound
  else if s.converts "excl" && there then return .error .alreadyThere
  else
    match ← openPath path .append with
    | .error fault => return .error fault
    | .ok number =>
        let start := s.sought.inBytes s.outputSize
        if let some (.node i) := (← openedAt? number).map Opened.target then
          unless s.converts "notrunc" do
            modifyFiles fun files => files.change i fun old =>
              old.extract 0 start ++ zeroBytes (start - old.size)
        modifyOpened (·.modify number fun o =>
          { o with appends := s.outputFlags.contains "append", position := start })
        return .ok number

/-- Goes on to the place of the output where writing starts, and tells whether there are places in
    it. -/
def seekOutput (s : Settings) : Run Bool := do
  let start := s.sought.inBytes s.outputSize
  match ← opening? 1 with
  | none => return true
  | some number =>
      match (← openedAt? number).map Opened.target with
      | some (.pipe _) => return start = 0
      | _ =>
          modifyOpened (·.modify number fun o => { o with position := o.position + start })
          return true

/-- Reads what is to be copied: what there is, and what went wrong. -/
def readSource (s : Settings) (self : String) (source : Nat) : Run (String × Option FileFault) := do
  let skipped := s.skipped.inBytes s.inputSize
  if 0 < skipped then
    match ← readOpened source (.upTo skipped) with
    | .ok data =>
        if data.size < skipped then
          say self ((s.source.getD "'standard input'") ++ ": cannot skip to specified offset")
    | .error _ => pure ()
  let appetite := match s.count with
    | some m => Appetite.upTo (m.inBytes s.inputSize)
    | none => .flow
  match ← readOpened source appetite with
  | .ok data => return (ByteText.ofBytes data, none)
  | .error fault => return ("", some fault)

/-- Copies from what is open to what is open. -/
def transfer (s : Settings) (self : String) (source : Nat) (target : Option Nat) : Run Unit := do
  let seeks ← if target.isNone then seekOutput s else pure true
  let (text, fault) ← if seeks then readSource s self source else pure ("", none)
  unless seeks do say self "'standard output': cannot seek: Illegal seek"
  if let some fault := fault then
    let name := (s.source.map quoted).getD "'standard input'"
    say self ("error reading " ++ name ++ ": " ++ fault.words)
  let read := pieces s.inputSize (text.length + 1) text.toList
  let (blocks, cut) := converted s read
  let direct := s.size.isSome &&
    !(["block", "unblock", "lcase", "ucase", "swab"].any s.converts)
  let all := blocks.flatten
  let written := if direct then blocks else pieces s.outputSize (all.length + 1) all
  let result ← match target with
    | some number => writeOpened number (ByteText.toBytes (String.ofList all))
    | none => writeStream 1 (ByteText.toBytes (String.ofList all))
  if let some fault := result then
    let name := (s.target.map quoted).getD "'standard output'"
    say self ("error writing " ++ name ++ ": " ++ fault.words)
  let (full, rest) := countsOf s.inputSize read
  let (fullOut, partialOut) := if result.isSome then (0, 0) else countsOf s.outputSize written
  let size := if result.isSome then 0 else all.length
  let line (full rest : Nat) (what : String) : Run Unit :=
    tell (toString full ++ "+" ++ toString rest ++ " records " ++ what ++ "\n")
  unless s.level = "none" do
    line full rest "in"
    line fullOut partialOut "out"
    if 0 < cut then
      tell (toString cut ++ " truncated record" ++ (if cut = 1 then "" else "s") ++ "\n")
    unless s.level = "noxfer" do tell (toString size ++ " bytes copied, 0 s, Infinity B/s\n")
  finish (if fault.isSome || result.isSome || !seeks then 1 else 0)

end Blocks

/-- Copies blocks. -/
def copyBlocks : Tool := fun self arguments =>
  withUsage "" self arguments fun u => do
    let settings : Except Misuse Blocks.Settings := do
      (← u.operands.foldlM Blocks.Settings.add {}).complete
    match settings with
    | .error m => m.report self 1
    | .ok s =>
        let notOpened (name : String) (fault : FileFault) : Run Unit :=
          fail self ("failed to open " ++ quoted name ++ ": " ++ fault.words)
        let source ← match s.source with
          | some path => openPath path .input
          | none => openOperand "-"
        match source, s.target with
        | .error fault, _ => notOpened (s.source.getD "standard input") fault
        | .ok source, none => Blocks.transfer s self source none
        | .ok source, some path =>
            match ← Blocks.openTarget s path with
            | .ok target => Blocks.transfer s self source (some target)
            | .error fault => notOpened path fault

end WasmBinary.Machine.Script.Tool
