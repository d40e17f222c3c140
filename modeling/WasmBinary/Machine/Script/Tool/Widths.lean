/-
  Tools that care how wide lines are.

  1. **Columns** — a tab leads to the next stop, a backspace goes back, and a return goes to the
     beginning of the line.

  2. **Folding** breaks lines that are too wide, perhaps behind blanks only.

  3. **Stops** are places that tabs lead to.  They can be listed; the last one can tell how they go
     on.
-/
import WasmBinary.Machine.Script.Tool.Basic

namespace WasmBinary.Machine.Script.Tool

open Run

/-- The choices of options that are digits, which numbers may follow. -/
def digitChoices (perhaps : String) : String :=
  " ".intercalate ((List.range 10).map fun d => toString d ++ perhaps)

/-! ## Folding -/

namespace Folding

/-- How lines are folded. -/
structure Settings where
  bytes : Bool := false
  atBlanks : Bool := false
  width : Nat := 80

/-- Takes an option into account. -/
def Settings.add (s : Settings) (option : Given) : Except Misuse Settings := do
  let widthOf (text : String) : Except Misuse Nat :=
    amountOr "invalid number of columns" "" text 1 (Nat.pow 2 63 - 10)
  match option.key with
  | "b" => return { s with bytes := true }
  | "s" => return { s with atBlanks := true }
  | "w" => return { s with width := ← widthOf option.value }
  | digit => return { s with width := ← widthOf (digit ++ option.value) }

/-- The column behind a character. -/
def Settings.advance (s : Settings) (column : Nat) (c : Char) : Nat :=
  if s.bytes then column + 1
  else
    match c.toNat with
    | 8 => column - 1
    | 13 => 0
    | 9 => column + 8 - column % 8
    | _ => column + 1

/-- Puts a character behind those that a line has so far, last one first, and breaks the line as
    often as that is needed: the lines before, the line, and its column. -/
def Settings.put (s : Settings) : Nat → (line : List Char) → (column : Nat) → Char →
    List (List Char) × List Char × Nat
  | 0, line, column, c => ([], c :: line, column)
  | n + 1, line, column, c =>
      let next := s.advance column c
      if next ≤ s.width || line.isEmpty then ([], c :: line, next)
      else
        let tail := line.takeWhile fun d => d ≠ ' ' && d ≠ '\t'
        if s.atBlanks && tail.length < line.length then
          let column := tail.reverse.foldl s.advance 0
          let (lines, rest) := s.put n tail column c
          (line.drop tail.length :: lines, rest)
        else
          let (lines, rest) := s.put n [] 0 c
          (line :: lines, rest)

/-- The pieces of a line. -/
def Settings.pieces (s : Settings) : (line : List Char) → (column : Nat) → List Char →
    List (List Char)
  | line, _, [] => [line]
  | line, column, c :: rest =>
      let (lines, line, column) := s.put (line.length + 2) line column c
      lines ++ s.pieces line column rest

/-- A text whose lines are folded. -/
def Settings.fold (s : Settings) (text : String) : String :=
  String.join ((linesOf text).map fun line =>
    let ended := line.endsWith "\n"
    let pieces := (s.pieces [] 0 (bare line).toList).map fun piece => String.ofList piece.reverse
    "\n".intercalate pieces ++ (if ended then "\n" else ""))

end Folding

/-- Folds lines. -/
def fold : Tool := fun self arguments =>
  withSettings ("b,bytes s,spaces w,width= " ++ digitChoices "=?") {} Folding.Settings.add self
    arguments fun s operands =>
      eachText self operands .flow fun _ text => emit (s.fold text)

/-! ## Stops -/

/-- The places that tabs lead to. -/
structure Stops where
  listed : List Nat := []
  /-- Stops go on at the multiples of a number, or at the same distance from the last one. -/
  multiples : Option Nat := none
  distance : Option Nat := none
  /-- Whether a list of stops marks the ones to come with a slash or a plus. -/
  mark : Option Char := none

namespace Stops

/-- Adds a number of a list. -/
def addNumber (s : Stops) (n : Nat) : Except Misuse Stops :=
  match s.mark with
  | some '/' =>
      if s.multiples.isSome then refused '/' else .ok { s with multiples := some n }
  | some '+' =>
      if s.distance.isSome then refused '+' else .ok { s with distance := some n }
  | _ => .ok { s with listed := s.listed ++ [n] }
where
  /-- What is told about a mark in front of other stops. -/
  refused (c : Char) : Except Misuse Stops :=
    .error (.plain ("'" ++ c.toString ++ "' specifier only allowed with the last value"))

/-- Adds the stops of a list. -/
def addList (whole : String) : Stops → (number : List Char) → List Char → Except Misuse Stops
  | s, number, [] => addPending s number
  | s, number, c :: rest =>
      if c = ',' || c = ' ' || c = '\t' then do addList whole (← addPending s number) [] rest
      else if c = '/' || c = '+' then
        if number.isEmpty then addList whole { s with mark := some c } [] rest
        else .error (.plain ("'" ++ c.toString ++ "' specifier not at start of number: " ++
          cited (String.ofList (c :: rest))))
      else if c.isDigit then addList whole s (c :: number) rest
      else .error (.plain ("tab size contains invalid character(s): " ++
        cited (String.ofList (c :: rest))))
where
  /-- Adds a number whose digits have been read, last one first. -/
  addPending (s : Stops) (number : List Char) : Except Misuse Stops :=
    if number.isEmpty then .ok s
    else
      let text := String.ofList number.reverse
      let n := Nat.ofDigitChars 10 text.toList 0
      if n < Nat.pow 2 64 then s.addNumber n
      else .error (.plain ("tab stop is too large " ++ cited text))

/-- Whether stops are as they should be. -/
def check (s : Stops) : Except Misuse Stops := do
  let pairs := s.listed.zip s.listed.tail
  if s.listed.contains 0 then throw (.plain "tab size cannot be 0")
  if pairs.any fun (a, b) => b ≤ a then throw (.plain "tab sizes must be ascending")
  if s.multiples.isSome && s.distance.isSome then
    throw (.plain "'/' specifier is mutually exclusive with '+'")
  return s

/-- The next stop behind a column, unless there is none. -/
def next? (s : Stops) (column : Nat) : Option Nat :=
  let multiple (n : Nat) : Nat := column + n - column % n
  let positive (n : Option Nat) : Option Nat := n.filter (0 < ·)
  match s.listed, positive s.multiples, positive s.distance with
  | [], some n, _ => some (multiple n)
  | [], none, some n => some (multiple n)
  | [], none, none => some (multiple 8)
  | [n], none, none => some (multiple n)
  | listed, multiples, distance =>
      match listed.find? (column < ·), multiples, distance with
      | some stop, _, _ => some stop
      | none, some n, _ => some (multiple n)
      | none, none, some n =>
          let last := listed.getLastD 0
          some (column + n - (column - last) % n)
      | none, none, none => none

end Stops

/-! ## Tabs and blanks -/

/-- A blank or a tab. -/
def isGap (c : Char) : Bool := c = ' ' || c = '\t'

/-- A line with blanks for its tabs, from a column on; perhaps only for those at its beginning. -/
def expandedLine (s : Stops) (leading : Bool) : (column : Nat) → List Char → List Char
  | _, [] => []
  | column, c :: rest =>
      if c = '\t' then
        let stop := (s.next? column).getD (column + 1)
        List.replicate (stop - column) ' ' ++ expandedLine s leading stop rest
      else if leading && c ≠ ' ' then c :: rest
      else
        c :: expandedLine s leading (if c.toNat = 8 then column - 1 else column + 1) rest

/-- Where a line is while tabs take the place of its blanks. -/
structure Unexpanding where
  column : Nat := 0
  /-- Blanks that may still be replaced, the last one first. -/
  pending : List Char := []
  /-- Whether the first of them is a single one in front of a stop. -/
  single : Bool := false
  behindBlank : Bool := true

/-- The pending blanks of a line as they are written. -/
def Unexpanding.flushed (u : Unexpanding) : List Char :=
  match u.pending.reverse with
  | [] => []
  | c :: rest => (if !rest.isEmpty && u.single then '\t' else c) :: rest

/-- A line with tabs for its blanks, as far as they lead to stops; perhaps only at its beginning. -/
def unexpandedLine (s : Stops) (whole : Bool) : Unexpanding → List Char → List Char
  | u, [] => u.flushed
  | u, c :: rest =>
      let plain (column : Nat) : List Char :=
        let front := u.flushed ++ [c]
        if whole then front ++ unexpandedLine s whole { column, behindBlank := false } rest
        else front ++ rest
      if isGap c then
        match s.next? u.column with
        | none => u.flushed ++ c :: rest
        | some stop =>
            let replaced (column : Nat) (pending : List Char) : List Char :=
              let kept := if u.single then pending.reverse.take 1 else []
              let front := ({ u with pending := kept } : Unexpanding).flushed ++ ['\t']
              front ++ unexpandedLine s whole { column, behindBlank := true } rest
            if c = '\t' then
              replaced stop (if u.pending.isEmpty then [] else
                u.pending.dropLast ++ ['\t'])
            else if u.behindBlank && u.column + 1 = stop then
              replaced (u.column + 1) (if u.pending.isEmpty then ['\t'] else
                u.pending.dropLast ++ ['\t'])
            else
              unexpandedLine s whole
                { column := u.column + 1, pending := c :: u.pending, behindBlank := true
                  single := u.single || u.column + 1 = stop } rest
      else plain (if c.toNat = 8 then u.column - 1 else u.column + 1)

/-- A text with something done to each of its lines. -/
def eachLine (f : List Char → List Char) (text : String) : String :=
  String.join ((linesOf text).map fun line =>
    String.ofList (f (bare line).toList) ++ (if line.endsWith "\n" then "\n" else ""))

/-- Replaces tabs by blanks. -/
def expandTabs : Tool := fun self arguments =>
  let add (state : Bool × Stops) (option : Given) : Except Misuse (Bool × Stops) := do
    match option.key with
    | "i" => return (true, state.2)
    | "t" => return (state.1, ← Stops.addList option.value state.2 [] option.value.toList)
    | digit =>
        let text := digit ++ option.value
        return (state.1, ← Stops.addList text state.2 [] text.toList)
  withSettings ("i,initial t,tabs= " ++ digitChoices "=?") (false, {}) add self arguments
    fun (leading, stops) operands =>
      match stops.check with
      | .error m => m.report self 1
      | .ok stops =>
          eachText self operands .flow fun _ text =>
            emit (eachLine (expandedLine stops leading 0) text)

/-- What is asked for where blanks are replaced by tabs. -/
structure UnexpandSettings where
  whole : Bool := false
  firstOnly : Bool := false
  stops : Stops := {}
  /-- The digits of a stop that options list. -/
  digits : List Char := []

/-- Replaces blanks by tabs. -/
def unexpandBlanks : Tool := fun self arguments =>
  let close (s : UnexpandSettings) : Except Misuse UnexpandSettings := do
    return { s with
      stops := ← Stops.addList "" s.stops [] s.digits.reverse, digits := [] }
  let add (s : UnexpandSettings) (option : Given) : Except Misuse UnexpandSettings := do
    match option.key with
    | "a" => return { s with whole := true }
    | "first-only" => return { s with firstOnly := true }
    | "t" =>
        let stops ← Stops.addList option.value s.stops [] option.value.toList
        return { s with whole := true, stops }
    | "," => close s
    | digit => return { s with digits := digit.toList ++ s.digits }
  withSettings ("a,all --first-only t,tabs= , " ++ digitChoices "") {} add self arguments
    fun s operands =>
      match (do (← close s).stops.check : Except Misuse Stops) with
      | .error m => m.report self 1
      | .ok stops =>
          eachText self operands .flow fun _ text =>
            emit (eachLine (unexpandedLine stops (s.whole && !s.firstOnly) {}) text)

end WasmBinary.Machine.Script.Tool
