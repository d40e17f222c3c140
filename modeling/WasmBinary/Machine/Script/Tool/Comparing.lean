/-
  Comparing two files byte by byte.

  1. **Where** — so many bytes in front of either file can be left out, and only so many bytes
     behind them may matter.

  2. **What is told** — the first difference, all of them, or nothing but the status.

  3. **The end** of one file in front of the other is a difference as well, which is told apart.
-/
import WasmBinary.Machine.Script.Tool.Basic

namespace WasmBinary.Machine.Script.Tool

open Run

/-! ## Settings -/

/-- What is told about differences. -/
inductive Telling
  | first
  | all
  | nothing
deriving DecidableEq, Repr

/-- How files are compared. -/
structure CompareSettings where
  telling : Telling := .first
  shows : Bool := false
  skipped : Nat × Nat := (0, 0)
  limit : Option Nat := none

/-- A number with a base as its front tells, and with a multiplier behind it. -/
def basedAmount? (text : String) : Option Nat :=
  (amountInBase 0 "kKMGTPEZY0" text (Nat.pow 2 63)).toOption

namespace CompareSettings

/-- Decides what is told. -/
def tells (s : CompareSettings) (telling : Telling) : Except Misuse CompareSettings :=
  if s.telling ≠ .first && s.telling ≠ telling then
    .error (.hinted "options -l and -s are incompatible")
  else .ok { s with telling }

/-- Leaves out bytes in front of the first file. -/
def skipFirst (s : CompareSettings) (text : String) : Except Misuse CompareSettings :=
  match basedAmount? text with
  | some n => .ok { s with skipped := (max s.skipped.1 n, s.skipped.2) }
  | none => .error (.hinted ("invalid --ignore-initial value '" ++ text ++ "'"))

/-- Leaves out bytes in front of the second file. -/
def skipSecond (s : CompareSettings) (text : String) : Except Misuse CompareSettings :=
  match basedAmount? text with
  | some n => .ok { s with skipped := (s.skipped.1, max s.skipped.2 n) }
  | none => .error (.hinted ("invalid --ignore-initial value '" ++ text ++ "'"))

/-- What an option adds. -/
def add (s : CompareSettings) (option : Given) : Except Misuse CompareSettings :=
  match option.key with
  | "b" | "c" => .ok { s with shows := true }
  | "l" => s.tells .all
  | "s" => s.tells .nothing
  | "i" =>
      match option.value.splitOn ":" with
      | [first] => do
          let s ← s.skipFirst first
          return { s with skipped := (s.skipped.1, max s.skipped.1 s.skipped.2) }
      | first :: second => do (← s.skipFirst first).skipSecond (":".intercalate second)
      | [] => .ok s
  | "n" =>
      match basedAmount? option.value with
      | some n => .ok { s with limit := some ((s.limit.map (min n)).getD n) }
      | none => .error (.hinted ("invalid --bytes value '" ++ option.value ++ "'"))
  | _ => .ok s

end CompareSettings

/-! ## Telling differences -/

/-- A byte in visible form. -/
def visibleByte (c : Char) : String :=
  let low (n : Nat) : String :=
    if n < 32 then "^" ++ (Char.ofNat (n + 64)).toString
    else if n = 127 then "^?" else (Char.ofNat n).toString
  if c.toNat < 128 then low c.toNat else "M-" ++ low (c.toNat - 128)

/-- A byte in octal digits. -/
def octalByte (c : Char) : String := String.ofList ((Nat.toDigits 8 c.toNat).leftpad 3 ' ')

/-- Tells that the shorter of two files has ended. -/
def tellEndOfFile (self name : String) (telling : Telling) (same : List Char) (bytes : Nat) :
    Run Unit := do
  let front := self ++ ": EOF on " ++ name
  if bytes = 0 then tell (front ++ " which is empty\n")
  else
    let lines := same.count '\n'
    let place := match telling, same.getLast? with
      | .first, some '\n' => ", line " ++ toString lines
      | .first, _ => ", in line " ++ toString (lines + 1)
      | _, _ => ""
    tell (front ++ " after byte " ++ toString bytes ++ place ++ "\n")

/-- Tells the differences of two texts: the status.  Offsets are as wide as they can become. -/
def tellDifferences (self : String) (s : CompareSettings) (width : Nat) (first second : String)
    (a b : List Char) : Run Unit := do
  let together := a.zip b
  let same := together.takeWhile fun (c, d) => c = d
  let lengths := (a.length, b.length)
  let shorter := if b.length < a.length then second else first
  if s.telling = .first then
    match together.drop same.length with
    | (c, d) :: _ =>
        let line := (a.take same.length).count '\n' + 1
        let shownBytes := if s.shows then " is " ++ octalByte c ++ " " ++ visibleByte c ++ " " ++
          octalByte d ++ " " ++ visibleByte d else ""
        emit (first ++ " " ++ second ++ " differ: " ++ (if s.shows then "byte " else "char ") ++
          toString (same.length + 1) ++ ", line " ++ toString line ++ shownBytes ++ "\n")
        finish 1
    | [] =>
        if lengths.1 = lengths.2 then finish 0
        else
          tellEndOfFile self shorter .first (a.take same.length) same.length
          finish 1
  else if s.telling = .nothing then finish (if a = b then 0 else 1)
  else
    if lengths.1 ≠ lengths.2 then tellEndOfFile self shorter .all [] together.length
    for ((c, d), i) in together.zipIdx do
      if c ≠ d then
        emit (padded width (i + 1) ++ " " ++ octalByte c ++ " " ++
          (if s.shows then filled 4 (visibleByte c) ++ " " else "") ++ octalByte d ++
          (if s.shows then " " ++ visibleByte d else "") ++ "\n")
    finish (if a = b then 0 else 1)

/-! ## Comparing -/

/-- A file to be compared. -/
structure Compared where
  name : String
  number : Nat
  /-- The node that is open. -/
  node : Option Nat := none
  position : Nat := 0

/-- How many bytes of a plain file are left. -/
def Compared.left (c : Compared) : Run (Option Nat) := do
  match c.node.bind (← files).node? with
  | some node => return if node.isPlain then some (node.size - c.position) else none
  | none => return none

/-- Opens a file to be compared. -/
def openCompared (self : String) (s : CompareSettings) (name : String) : Run (Option Compared) := do
  match ← openOperand name with
  | .error fault =>
      if s.telling ≠ .nothing then say self (name ++ ": " ++ fault.words)
      return none
  | .ok number =>
      let o ← openedAt? number
      return some { name, number, position := (o.map Opened.position).getD 0
                    node := match o.map Opened.target with
                      | some (.node i) => some i
                      | _ => none }

/-- How many bytes of a file matter, at most, if the other one has so many. -/
def reachOf (size : Option Nat) : Nat := (size.map (· + 1)).getD (Nat.pow 2 63)

/-- How many bytes are left of what is open, where that is known without reading. -/
def knownSize (c : Compared) : Run (Option Nat) := do
  match c.node.bind (← files).node? with
  | some node =>
      match node.content with
      | .data bytes => return some (bytes.size - c.position)
      | .device .null => return some 0
      | _ => return none
  | none => return none

/-- Compares two files that are open. -/
def compareOpened (self : String) (s : CompareSettings) (a b : Compared) : Run Unit := do
  let place (c : Compared) (skipped : Nat) : Nat := c.position + skipped
  if a.node.isSome && a.node = b.node && place a s.skipped.1 = place b s.skipped.2 then
    return ← finish 0
  let lefts := (← [a, b].mapM Compared.left).zipWith (fun left skipped => left.map (· - skipped))
    [s.skipped.1, s.skipped.2]
  let most := (lefts.filterMap id).foldl min (s.limit.getD (Nat.pow 2 63 - 1))
  let width := (Nat.toDigits 10 most).length
  let read (c : Compared) (skipped most : Nat) : Run (Option (List Char)) := do
    match ← readOpened c.number (.upTo (skipped + most)) with
    | .ok data => return some (((ByteText.ofBytes data).toList.drop skipped).take most)
    | .error fault =>
        say self (c.name ++ ": " ++ fault.words)
        return none
  let limit := s.limit.getD (Nat.pow 2 63)
  let firstSize ← knownSize a
  let secondSize ← knownSize b
  let some first ← read a s.skipped.1 (min limit (reachOf secondSize)) | finish 2
  let some second ← read b s.skipped.2 (min limit (reachOf firstSize)) | finish 2
  tellDifferences self s width a.name b.name first second

/-- Tells where two files differ. -/
def compareFiles : Tool := fun self arguments =>
  withSettings ("b,print-bytes c,print-chars i,ignore-initial= l,verbose n,bytes= " ++
      "s,silent,quiet --version --help v") {} CompareSettings.add self arguments
    (fun s operands => do
    let misuse (m : Misuse) : Run Unit := m.report self 2 true
    let skips := operands.drop 2
    let skipping : Except Misuse CompareSettings := do
      let s ← match skips.head? with
        | some text => s.skipFirst text
        | none => pure s
      let s ← match skips[1]? with
        | some text => s.skipSecond text
        | none => pure s
      if let some operand := skips[2]? then throw (.hinted ("extra operand '" ++ operand ++ "'"))
      return s
    match operands, skipping with
    | [], _ =>
        misuse (.hinted ("missing operand after '" ++ (arguments.getLast?).getD self ++ "'"))
    | _, .error m => misuse m
    | first :: rest, .ok s =>
        let second := rest.headD "-"
        let order := if second = "-" then [second, first] else [first, second]
        let some one ← openCompared self s (order.headD "") | finish 2
        if s.skipped.1 = s.skipped.2 && first = second then return ← finish 0
        let some other ← openCompared self s ((order.drop 1).headD "") | finish 2
        if second = "-" then compareOpened self s other one else compareOpened self s one other)
    2 true

end WasmBinary.Machine.Script.Tool
