/-
  Parts of lines, and lines side by side.

  1. **Ranges** are numbers of fields or bytes, counted from one, with or without an end.

  2. **Cutting** keeps the parts of each line that are in the ranges.

  3. **Pasting** puts lines of files side by side, or the lines of each file on a line of its own.
-/
import WasmBinary.Machine.Script.Tool.Basic

namespace WasmBinary.Machine.Script.Tool

open Run

/-! ## Ranges -/

/-- Numbers from a first one to a last one, if there is one. -/
abbrev NumberRange := Nat × Option Nat

/-- How a list of ranges is called in messages. -/
structure RangeNames where
  numbered : String
  range : String
  large : String
  invalid : String

namespace RangeNames

/-- Lists of fields. -/
def fields : RangeNames :=
  { numbered := "fields are numbered from 1", range := "invalid field range"
    large := "field number ", invalid := "invalid field value " }

/-- Lists of bytes or characters. -/
def bytes : RangeNames :=
  { numbered := "byte/character positions are numbered from 1"
    range := "invalid byte or character range"
    large := "byte/character offset ", invalid := "invalid byte/character position " }

end RangeNames

/-- A range in the making. -/
structure RangeState where
  /-- The number in front of the hyphen, and the one behind it or alone, if they are there. -/
  first : Option Nat := none
  number : Option Nat := none
  hyphen : Bool := false
  done : List NumberRange := []

/-- Closes a range. -/
def RangeState.close (s : RangeState) (names : RangeNames) : Except Misuse RangeState :=
  if s.hyphen then
    match s.first, s.number with
    | none, none => .error (.hinted "invalid range with no endpoint: -")
    | first, none => .ok { done := (first.getD 1, none) :: s.done }
    | first, some last =>
        if last < first.getD 1 then .error (.hinted "invalid decreasing range")
        else .ok { done := (first.getD 1, some last) :: s.done }
  else
    match s.number with
    | none | some 0 => .error (.hinted names.numbered)
    | some n => .ok { done := (n, some n) :: s.done }

/-- The ranges that a list describes, behind what was read of it. -/
def rangesFrom (names : RangeNames) : Nat → RangeState → List Char →
    Except Misuse (List NumberRange)
  | 0, s, _ => .ok s.done
  | n + 1, s, cs => do
      match cs with
      | [] => return (← s.close names).done
      | '-' :: rest =>
          if s.hyphen then throw (.hinted names.range)
          if s.number = some 0 then throw (.hinted names.numbered)
          rangesFrom names n { s with first := s.number, number := none, hyphen := true } rest
      | c :: rest =>
          if c = ',' || c = ' ' || c = '\t' then rangesFrom names n (← s.close names) rest
          else if c.isDigit then
            let digits := cs.takeWhile Char.isDigit
            let value := Nat.ofDigitChars 10 digits 0
            if Nat.pow 2 64 - 1 ≤ value then
              throw (.hinted (names.large ++ cited (String.ofList digits) ++ " is too large"))
            rangesFrom names n { s with number := some value } (cs.drop digits.length)
          else throw (.hinted (names.invalid ++ cited (String.ofList cs)))

/-- Ranges without those that overlap another one. -/
def mergedRanges : List NumberRange → List NumberRange
  | (a, some b) :: (c, d) :: rest =>
      if c ≤ b then mergedRanges ((a, d.map (max b)) :: rest)
      else (a, some b) :: mergedRanges ((c, d) :: rest)
  | (a, none) :: _ => [(a, none)]
  | ranges => ranges
termination_by ranges => ranges.length

/-- The numbers from a first one on that are in none of some ranges in their order. -/
def otherRanges (first : Nat) : List NumberRange → List NumberRange
  | [] => [(first, none)]
  | (a, last) :: rest =>
      let before := if first < a then [(first, some (a - 1))] else []
      match last with
      | some b => before ++ otherRanges (b + 1) rest
      | none => before

/-- The ranges that a list describes, in their order. -/
def rangesOf (names : RangeNames) (others : Bool) (text : String) :
    Except Misuse (List NumberRange) := do
  let found ← rangesFrom names (2 * text.length + 2) {} text.toList
  let sorted := found.reverse.mergeSort fun a b => a.1 ≤ b.1
  let ranges := mergedRanges sorted
  return if others then otherRanges 1 ranges else ranges

/-! ## Cutting -/

/-- What is cut out of lines. -/
structure CutSettings where
  /-- Whether fields are cut out, and the list of what is cut out. -/
  list : Option (Bool × String) := none
  delimiter : Option Char := none
  /-- What stands between the parts that are kept, where that is said. -/
  between : Option String := none
  /-- Whether lines without a delimiter are left out. -/
  suppresses : Bool := false
  others : Bool := false
  ending : Char := '\n'

namespace CutSettings

/-- What an option adds. -/
def add (s : CutSettings) (option : Given) : Except Misuse CutSettings := do
  match option.key with
  | "b" | "c" | "f" =>
      if s.list.isSome then throw (.hinted "only one list may be specified")
      return { s with list := some (option.key = "f", option.value) }
  | "d" =>
      match option.value.toList with
      | [] => return { s with delimiter := some '\x00' }
      | [c] => return { s with delimiter := some c }
      | _ => throw (.hinted "the delimiter must be a single character")
  | "output-delimiter" =>
      return { s with between := some (if option.value = "" then "\x00" else option.value) }
  | "s" => return { s with suppresses := true }
  | "complement" => return { s with others := true }
  | "z" => return { s with ending := '\x00' }
  | _ => return s

/-- Whether fields are cut out, and the ranges that are. -/
def ranges (s : CutSettings) : Except Misuse (Bool × List NumberRange) := do
  match s.list with
  | none => throw (.hinted "you must specify a list of bytes, characters, or fields")
  | some (true, list) => return (true, ← rangesOf .fields s.others list)
  | some (false, list) =>
      if s.delimiter.isSome then
        throw (.hinted "an input delimiter may be specified only when operating on fields")
      if s.suppresses then
        throw (.hinted
          "suppressing non-delimited lines makes sense\n\tonly when operating on fields")
      return (false, ← rangesOf .bytes s.others list)

end CutSettings

/-- The elements of a list that are in ranges. -/
def inRanges {α : Type} (ranges : List NumberRange) (xs : List α) : List (List α) :=
  ranges.map fun (first, last) =>
    let rest := xs.drop (first - 1)
    match last with
    | some last => rest.take (last + 1 - first)
    | none => rest

/-- What is kept of the bytes of a line. -/
def CutSettings.bytesOf (s : CutSettings) (ranges : List NumberRange) (line : String) : String :=
  let parts := (inRanges ranges line.toList).map String.ofList
  match s.between with
  | none => String.join parts
  | some between => between.intercalate (parts.filter (· ≠ ""))

/-- What is kept of the fields of a line, if anything. -/
def CutSettings.fieldsOf (s : CutSettings) (delimiter : Char) (ranges : List NumberRange)
    (line : String) : Option String :=
  if !line.toList.contains delimiter then if s.suppresses then none else some line
  else
    let fields := line.splitToList (· = delimiter)
    some ((s.between.getD delimiter.toString).intercalate (inRanges ranges fields).flatten)

/-- What is kept of a text. -/
def CutSettings.textOf (s : CutSettings) (byFields : Bool) (ranges : List NumberRange)
    (text : String) : String :=
  let delimiter := s.delimiter.getD '\t'
  let ended (lines : List String) : String := String.join (lines.map (·.push s.ending))
  if !byFields then ended ((recordsOf s.ending text).map (s.bytesOf ranges))
  else if delimiter = s.ending then
    if text = "" then ""
    else if !text.toList.contains delimiter then if s.suppresses then "" else ended [text]
    else
      let fields := recordsOf s.ending text
      ended [(s.between.getD delimiter.toString).intercalate (inRanges ranges fields).flatten]
  else ended ((recordsOf s.ending text).filterMap (s.fieldsOf delimiter ranges))

/-- Takes parts out of lines. -/
def cut : Tool := fun self arguments =>
  let choices := "b,bytes= c,characters= f,fields= d,delimiter= s,only-delimited " ++
    "--output-delimiter= --complement z,zero-terminated n"
  withSettings choices ({} : CutSettings) CutSettings.add self arguments fun s operands => do
    match s.ranges with
    | .error m => m.report self 1
    | .ok (byFields, ranges) =>
        eachText self operands .flow fun _ text => emit (s.textOf byFields ranges text)

/-! ## Pasting -/

/-- The delimiters that a text describes, where some are none at all. -/
def delimitersOf : List Char → Option (List (Option Char))
  | [] => some []
  | ['\\'] => none
  | '\\' :: c :: rest =>
      let delimiter := match c with
        | '0' => none
        | 'b' => some '\x08'
        | 'f' => some '\x0c'
        | 'n' => some '\n'
        | 'r' => some '\r'
        | 't' => some '\t'
        | 'v' => some '\x0b'
        | c => some c
      (delimitersOf rest).map (delimiter :: ·)
  | c :: rest => (delimitersOf rest).map (some c :: ·)

/-- The delimiter behind the cell at a place. -/
def delimiterAt (delimiters : Array (Option Char)) (i : Nat) : String :=
  ((delimiters[i % max 1 delimiters.size]?).join.map Char.toString).getD ""

/-- What is read side by side: the path, whether all of it has been read, and the number under which
    it is open. -/
structure PasteSource where
  path : String
  number : Nat
  ended : Bool := false

/-- The next line of what is open under a number, and whether it could be read. -/
def nextPasted (ending : Char) (lines : List (Nat × List String)) (number : Nat) :
    Option String × List (Nat × List String) :=
  match lines.lookup number with
  | some (line :: rest) =>
      (some (bareOf line), (number, rest) :: lines.filter fun entry => entry.1 ≠ number)
  | _ => (none, lines)
where
  /-- A line without its end. -/
  bareOf (line : String) : String :=
    if line.endsWith ending.toString then String.ofList line.toList.dropLast else line

/-- Puts lines side by side, one row after the other: whether everything could be read.  The first
    number bounds how many rows there are. -/
def pasteRows (self : String) (delimiters : Array (Option Char)) (ending : Char) :
    Nat → List PasteSource → List (Nat × List String) → List (Nat × FileFault) →
    Run Bool
  | 0, _, _, _ => return true
  | n + 1, sources, lines, faults => do
      let (sources, lines, cells) := sources.foldl
        (fun (sources, lines, cells) source =>
          if source.ended then (sources ++ [source], lines, cells ++ [none])
          else
            let (cell, lines) := nextPasted ending lines source.number
            (sources ++ [{ source with ended := cell.isNone }], lines, cells ++ [cell]))
        (([] : List PasteSource), lines, ([] : List (Option String)))
      let width := cells.length
      let here := sources.filterMap fun source =>
        if source.ended then (faults.lookup source.number).map fun fault => (source.path, fault)
        else none
      let row := String.join (cells.zipIdx.map fun (cell, i) =>
        cell.getD "" ++ if i + 1 < width then delimiterAt delimiters i else "")
      if cells.any Option.isSome then
        let ended := sources.map PasteSource.ended
        let place := (sources.zip ended).findIdx? fun entry =>
          entry.2 && (faults.lookup entry.1.number).isSome
        let front := String.join ((cells.take (place.getD width)).zipIdx.map fun (cell, i) =>
          cell.getD "" ++ if i + 1 < width then delimiterAt delimiters i else "")
        emit front
        for (path, fault) in here do say self (shown path ++ ": " ++ fault.words)
        emit (String.ofList ((row.push ending).toList.drop front.length))
        let faults := faults.filter fun entry =>
          !sources.any fun source => source.ended && source.number = entry.1
        let well ← pasteRows self delimiters ending n sources lines faults
        return well && here.isEmpty
      else
        for (path, fault) in here do say self (shown path ++ ": " ++ fault.words)
        return here.isEmpty

/-- Puts the lines of each file on a line of its own. -/
def pasteSerially (self : String) (delimiters : Array (Option Char)) (ending : Char)
    (path : String) : Run Bool := do
  match ← openOperand path with
  | .error fault =>
      say self (shown path ++ ": " ++ fault.words)
      return false
  | .ok number =>
      match ← readOpened number .flow with
      | .error fault =>
          emit ending.toString
          say self (shown path ++ ": " ++ fault.words)
          return false
      | .ok data =>
          let lines := recordsOf ending (ByteText.ofBytes data)
          emit (String.join (lines.zipIdx.map fun (line, i) =>
            line ++ if i + 1 < lines.length then delimiterAt delimiters i else "") ++
              ending.toString)
          return true

/-- Puts lines side by side. -/
def paste : Tool := fun self arguments =>
  withUsage "s,serial z,zero-terminated d,delimiters=" self arguments fun u => do
    let text := (u.value? 'd').getD "\t"
    let ending := if u.has 'z' then '\x00' else '\n'
    match delimitersOf (if text = "" then "\\0" else text).toList with
    | none => fail self ("delimiter list ends with an unescaped backslash: " ++ shownRaw text)
    | some delimiters =>
        let delimiters := delimiters.toArray
        let operands := orInput u.operands
        if u.has 's' then forEach operands (pasteSerially self delimiters ending)
        else
          let mut sources : List PasteSource := []
          for path in operands do
            match ← openOperand path with
            | .error fault => return ← fail self (shown path ++ ": " ++ fault.words)
            | .ok number => sources := sources ++ [⟨path, number, false⟩]
          let numbers := (sources.map PasteSource.number).eraseDups
          let read ← numbers.mapM fun number => return (number, ← readOpened number .flow)
          let lines := read.map fun (number, result) =>
            (number, match result with
              | .ok data => piecesOf ending (ByteText.ofBytes data)
              | .error _ => [])
          let faults := read.filterMap fun (number, result) =>
            match result with
            | .ok _ => none
            | .error fault => some (number, fault)
          let height := sumOf (lines.map fun entry => entry.2.length) + 2
          let well ← pasteRows self delimiters ending height sources lines faults
          finishWith well
where
  /-- A text as it is, if nothing in it has to be escaped. -/
  shownRaw (text : String) : String := if text.all isPrintable then text else cited text

end WasmBinary.Machine.Script.Tool
