/-
  The tool that splits a file into several ones.

  1. **Ways** — pieces have so many lines, so many bytes, or as many whole lines as so many bytes
     hold; or there are so many pieces.

  2. **Names** end with letters or digits that count.  They become longer when they run out, unless
     their length was asked for.

  3. **Targets** — a piece becomes a file, or a command reads it.
-/
import WasmBinary.Machine.Script.Tool.Starting

namespace WasmBinary.Machine.Script.Tool

open Run

namespace Splitting

/-- How pieces come about. -/
inductive Way
  | lines (count : Nat)
  | bytes (count : Nat)
  | lineBytes (count : Nat)
  /-- So many pieces of about the same size; perhaps just one of them, which is shown. -/
  | chunks (only : Option Nat) (count : Nat)
  /-- The same with whole lines, either together or in turn. -/
  | lineChunks (only : Option Nat) (count : Nat) (inTurn : Bool)
deriving DecidableEq, Repr

/-- Whether the size of the whole has to be known before. -/
def Way.needsSize : Way → Bool
  | .chunks .. | .lineChunks _ _ false => true
  | _ => false

/-- How a file is split. -/
structure Settings where
  way : Option Way := none
  /-- Digits of an option that count lines. -/
  digits : Option String := none
  suffixLength : Option Nat := none
  /-- The signs that names count with. -/
  signs : List Char := "abcdefghijklmnopqrstuvwxyz".toList
  /-- Where names start to count, if that is said. -/
  start : Option Nat := none
  ending : String := ""
  skipsEmpty : Bool := false
  command : Option String := none
  separator : Option Char := none
  tells : Bool := false

/-! ## Options -/

/-- Asks for a way, which has to be the only one. -/
def Settings.withWay (s : Settings) (way : Way) : Except Misuse Settings :=
  if s.way.isSome then .error (.hinted "cannot split in more than one way")
  else .ok { s with way := some way }

/-- An amount that is not zero. -/
def amountOf (what text : String) : Except Misuse Nat := do
  let fault : Misuse := .plain ("invalid number of " ++ what ++ ": " ++ quoted text)
  match amount usualMultipliers text with
  | .ok 0 | .error .invalid | .error .suffix => throw fault
  | .ok n => return n
  | .error other =>
      throw (.plain ("invalid number of " ++ what ++ ": " ++ quoted text ++ other.ending))

/-- The chunks that a text asks for. -/
def chunksOf (text : String) : Except Misuse Way := do
  let (kind, rest) := match text.toList with
    | 'l' :: '/' :: rest => (some false, String.ofList rest)
    | 'r' :: '/' :: rest => (some true, String.ofList rest)
    | _ => (none, text)
  let (only, count) ← match rest.splitOn "/" with
    | [one, count] => do
        let count ← amountOf "chunks" count
        match one.toNat? with
        | some n =>
            if 1 ≤ n && n ≤ count then pure (some n, count)
            else throw (.plain ("invalid chunk number: " ++ quoted one))
        | none => throw (.plain ("invalid chunk number: " ++ quoted one))
    | _ => do pure (none, ← amountOf "chunks" rest)
  match kind with
  | none => return .chunks only count
  | some inTurn => return .lineChunks only count inTurn

/-- Takes an option into account. -/
def Settings.add (s : Settings) (option : Given) : Except Misuse Settings := do
  let value := option.value
  match option.key with
  | "a" =>
      match value.toNat? with
      | some n => return { s with suffixLength := if n = 0 then none else some n }
      | none => throw (.plain ("invalid suffix length: " ++ quoted value))
  | "additional-suffix" =>
      if value.contains '/' then
        throw (.hinted ("invalid suffix " ++ quoted value ++ ", contains directory separator"))
      return { s with ending := value }
  | "b" => s.withWay (.bytes (← amountOf "bytes" value))
  | "l" => s.withWay (.lines (← amountOf "lines" value))
  | "C" => s.withWay (.lineBytes (← amountOf "lines" value))
  | "n" => s.withWay (← chunksOf value)
  | "d" | "numeric-suffixes" => counting "0123456789".toList 10 option
  | "x" | "hex-suffixes" => counting "0123456789abcdef".toList 16 option
  | "e" => return { s with skipsEmpty := true }
  | "filter" => return { s with command := some value }
  | "t" =>
      match value.toList with
      | [c] => return { s with separator := some c }
      | ['\\', '0'] => return { s with separator := some '\x00' }
      | [] => throw (.plain "empty record separator")
      | _ => throw (.plain ("multi-character separator " ++ quoted value))
  | "verbose" => return { s with tells := true }
  | "-io-blksize" =>
      let _ ← amountOr "invalid IO block size" usualMultipliers value 1
      return s
  | "u" => return s
  | digit =>
      if s.way.isSome then throw (.hinted "cannot split in more than one way")
      return { s with digits := some (s.digits.getD "" ++ digit) }
where
  /-- Counts with digits. -/
  counting (signs : List Char) (base : Nat) (option : Given) : Except Misuse Settings := do
    if !option.valued then return { s with signs }
    match amountInBase base "" option.value with
    | .ok n => return { s with signs, start := some n }
    | .error _ =>
        throw (.hinted (option.value ++ ": invalid start value for numerical suffix"))

/-! ## Names -/

/-- A number in digits of a base, filled up to a length. -/
def digitsOf (signs : List Char) (length n : Nat) : List Char :=
  ((List.range length).map fun i =>
    signs.getD (n / Nat.pow signs.length (length - 1 - i) % signs.length) '?')

/-- The ending of a name that may become longer: the last sign in front leads on to longer ones. -/
def longerDigits (signs : List Char) : Nat → (length n : Nat) → List Char
  | 0, length, n => digitsOf signs length n
  | fuel + 1, length, n =>
      let here := (signs.length - 1) * Nat.pow signs.length (length - 1)
      if n < here then digitsOf signs length n
      else signs.getLastD '?' :: longerDigits signs fuel (length + 1) (n - here)

/-- How many signs are needed to count up to a number. -/
def lengthFor (base : Nat) : Nat → Nat → Nat → Nat
  | 0, length, _ => length
  | fuel + 1, length, n =>
      if Nat.pow base length < n then lengthFor base fuel (length + 1) n else length

/-- How long the endings of names are, if that is settled before. -/
def Settings.fixedLength (s : Settings) : Except String (Option Nat) := do
  let base := s.signs.length
  let count := match s.way with
    | some (.chunks none n) | some (.lineChunks none n _) => some n
    | _ => none
  match count, s.suffixLength with
  | some n, some length =>
      let needed := lengthFor base 70 1 (n + s.start.getD 0)
      if length < needed then
        throw ("the suffix length needs to be at least " ++ toString needed)
      else return some length
  | some n, none => return some (lengthFor base 70 2 (n + s.start.getD 0))
  | none, some length => return some length
  | none, none => return if s.start.isSome then some 2 else none

/-- The ending of a name, unless there are no more. -/
def Settings.nameEnding? (s : Settings) (length : Option Nat) (i : Nat) : Option String :=
  let n := s.start.getD 0 + i
  match length with
  | some length =>
      if Nat.pow s.signs.length length ≤ n then none
      else some (String.ofList (digitsOf s.signs length n))
  | none => some (String.ofList (longerDigits s.signs 60 2 n))

/-! ## Pieces -/

/-- Parts of a list that have a size at most. -/
def parts {α : Type} (size : Nat) : Nat → List α → List (List α)
  | 0, _ | _, [] => []
  | n + 1, xs => xs.take size :: parts size n (xs.drop size)

/-- Lines put together as long as they do not have more bytes than a number.  A line that has more
    is broken. -/
def packed (most : Nat) : Nat → (held : List Char) → List (List Char) → List (List Char)
  | 0, held, _ => if held.isEmpty then [] else [held]
  | _, held, [] => if held.isEmpty then [] else [held]
  | n + 1, held, line :: rest =>
      if held.length + line.length ≤ most then packed most n (held ++ line) rest
      else if !held.isEmpty then held :: packed most n [] (line :: rest)
      else line.take most :: packed most n [] (line.drop most :: rest)

/-- The first byte of a chunk. -/
def chunkStart (size count k : Nat) : Nat := k * (size / count) + min k (size % count)

/-- The pieces of a text. -/
def piecesBy (way : Way) (ending : Char) (text : String) : List String :=
  let lines := piecesOf ending text
  match way with
  | .lines count => (parts count (lines.length + 1) lines).map String.join
  | .bytes count => (parts count (text.length + 1) text.toList).map String.ofList
  | .lineBytes count =>
      (packed count (2 * text.length + lines.length + 2) [] (lines.map String.toList)).map
        String.ofList
  | .chunks _ count =>
      let cs := text.toList
      (List.range count).map fun k =>
        let first := chunkStart cs.length count k
        String.ofList ((cs.drop first).take (chunkStart cs.length count (k + 1) - first))
  | .lineChunks _ count true =>
      (List.range count).map fun k =>
        String.join ((lines.zipIdx.filter fun (_, i) => i % count = k).map (·.1))
  | .lineChunks _ count false =>
      let starts := (lines.foldl (fun (done, place) line =>
        (done ++ [place], place + line.length)) (([] : List Nat), 0)).1
      let placed := lines.zip starts
      (List.range count).map fun k =>
        let first := chunkStart text.length count k
        let next := chunkStart text.length count (k + 1)
        String.join ((placed.filter fun (_, place) => first ≤ place && place < next).map (·.1))

/-- The piece that is shown, if only one is wanted. -/
def Way.only? : Way → Option Nat
  | .chunks only _ | .lineChunks only _ _ => only
  | _ => none

/-- Writes a piece: whether that was possible. -/
def writePiece (s : Settings) (start : Starter) (self path piece : String) : Run Bool := do
  match s.command with
  | some command =>
      if s.tells then emit ("executing with FILE=" ++ quoted path ++ "\n")
      keepingShell (fun before after => { before with status := after.status }) do
        putVariable "FILE" { value := some path, exported := true }
        let _ ← statusOn start "sh" command piece
      return true
  | none =>
      if s.tells then emit ("creating file " ++ quoted path ++ "\n")
      match ← openPath path .replace with
      | .ok number =>
          if let some fault ← writeOpened number (ByteText.toBytes piece) then
            say self (shown path ++ ": " ++ fault.words)
            return false
          return true
      | .error fault =>
          say self (shown path ++ ": " ++ fault.words)
          return false

/-- Writes pieces, the names of which count from a number on. -/
def writePieces (s : Settings) (start : Starter) (self lead : String) (length : Option Nat) :
    Nat → List String → Run Unit
  | _, [] => finish 0
  | i, piece :: rest => do
      if s.skipsEmpty && piece = "" then writePieces s start self lead length i rest
      else
        match s.nameEnding? length i with
        | none => fail self "output file suffixes exhausted"
        | some counted =>
            if ← writePiece s start self (lead ++ counted ++ s.ending) piece then
              writePieces s start self lead length (i + 1) rest
            else finish 1

end Splitting

/-- Splits a file. -/
def splitFile (start : Starter) : Tool := fun self arguments =>
  let digits := " ".intercalate ((List.range 10).map toString)
  withSettings ("b,bytes= l,lines= C,line-bytes= n,number= e,elide-empty-files u,unbuffered " ++
      "a,suffix-length= --additional-suffix= --numeric-suffixes=? --hex-suffixes=? " ++
      "--filter= --verbose t,separator= ---io-blksize= d x " ++ digits)
    {} Splitting.Settings.add self arguments fun s operands => do
      match operands with
      | _ :: _ :: extra :: _ => return ← misuse self ("extra operand " ++ quoted extra)
      | _ => pure ()
      let way : Except Misuse Splitting.Way := match s.digits, s.way with
        | some _, some _ => .error (.hinted "cannot split in more than one way")
        | some text, none => do return .lines (← Splitting.amountOf "lines" text)
        | none, way => .ok (way.getD (.lines 1000))
      let path := operands.headD "-"
      let lead := (operands[1]?).getD "x"
      match way, s.fixedLength with
      | .error m, _ => m.report self 1
      | _, .error text => fail self text
      | .ok way, .ok length =>
          if s.command.isSome && way.only?.isSome then
            return ← misuse self "--filter does not process a chunk extracted to stdout"
          match ← readOperand path .whole with
          | .error .isADirectory =>
              let what := if way.needsSize then shown path ++ ": cannot determine file size"
                else shown path
              fail self (what ++ ": " ++ FileFault.isADirectory.words)
          | .error fault =>
              fail self ("cannot open " ++ quoted path ++ " for reading: " ++ fault.words)
          | .ok text =>
              let pieces := Splitting.piecesBy way (s.separator.getD '\n') text
              match way.only? with
              | some k =>
                  emit (pieces.getD (k - 1) "")
                  finish 0
              | none => Splitting.writePieces s start self lead length 0 pieces

end WasmBinary.Machine.Script.Tool
