/-
  Sorting lines.

  1. **Sorting** reads all lines before it writes any, so that a file can be sorted in its place.

  2. **Merging** takes lines that are sorted already.

  3. **Checking** finds the first line that is out of order.
-/
import WasmBinary.Machine.Script.Tool.Sorting.Settings

namespace WasmBinary.Machine.Script.Tool

open Run

namespace Sorting

/-- Says that something failed for a file, and stops. -/
def stop {α : Type} (self what path : String) (fault : FileFault) : Run α := do
  fail self (what ++ ": " ++ shown path ++ ": " ++ fault.words) 2
  throw .failed

/-- Reads the lines of a file. -/
def linesIn (self : String) (c : Comparison) (ending : Char) (path : String) :
    Run (List Line) := do
  match ← openOperand path with
  | .error fault => stop self (if path = "-" then "stat failed" else "open failed") path fault
  | .ok number =>
      match ← readOpened number .whole with
      | .error fault => stop self "read failed" path fault
      | .ok data => return (recordsOf ending (ByteText.ofBytes data)).map c.line

/-- Finds the first line that is out of order, with its place. -/
def disorder? (c : Comparison) (unique : Bool) : Nat → List Line → Option (Nat × Line)
  | i, a :: b :: rest =>
      match c.order a b with
      | .gt => some (i + 1, b)
      | .eq => if unique then some (i + 1, b) else disorder? c unique (i + 1) (b :: rest)
      | .lt => disorder? c unique (i + 1) (b :: rest)
  | _, _ => none

/-- Checks whether the lines of a file are in order. -/
def check (self : String) (s : Settings) (letter : Char) (path : String) : Run Unit := do
  let c := s.comparison
  match disorder? c s.unique 1 (← linesIn self c s.ending path) with
  | none => finish 0
  | some (i, line) =>
      if letter = 'c' then
        say self (path ++ ":" ++ toString i ++ ": disorder: " ++ line.text)
      finish 1

/-- The files that are to be sorted: the operands, or those that a list names. -/
def filesFrom (self : String) (s : Settings) (operands : List String) :
    Run (Option (List String)) := do
  match s.namesFrom, operands with
  | none, operands => return some (orInput operands)
  | some _, operand :: _ =>
      refuseOperand self operand 2
      return none
  | some list, [] =>
      match ← readOperand list .whole with
      | .error .isADirectory => do
          fail self ("cannot read file names from " ++ quoted list) 2
          return none
      | .error fault => stop self "open failed" list fault
      | .ok text =>
          let names := recordsOf '\x00' text
          let wrong (entry : String × Nat) : Option String :=
            nameFault? (if entry.1 = "-" then "-" else list) entry.1 entry.2
          match names.zipIdx.filterMap wrong with
          | text :: _ =>
              fail self text 2
              return none
          | [] =>
              if names.isEmpty then
                fail self ("no input from " ++ cited list) 2
                return none
              return some names

/-- Sorts or merges the lines of files. -/
def sortFiles (self : String) (s : Settings) (paths : List String) : Run Unit := do
  for path in paths do
    if path ≠ "-" then
      if let .error fault ← targetOf path .input then stop self "cannot read" path fault
  let target ← match s.output with
    | none => pure none
    | some path =>
        match ← openPath path .append with
        | .ok _ => pure (some path)
        | .error fault => stop self "open failed" path fault
  let c := s.comparison
  let lists ← paths.mapM (linesIn self c s.ending)
  let lines := if s.merges then merged c (sumOf (lists.map List.length) + 1) lists
    else lists.flatten.mergeSort fun a b => c.order a b ≠ .gt
  let lines := if s.unique then distinct c lines else lines
  let text := String.join (lines.map fun line => line.text.push s.ending)
  let data := ByteText.toBytes text
  let fault ← match target with
    | none => writeStream 1 data
    | some path =>
        match ← openPath path .replace with
        | .ok number => writeOpened number data
        | .error fault => pure (some fault)
  match fault with
  | none => finish 0
  | some fault =>
      let what := if data.size ≤ 4096 then "fflush failed" else "write failed"
      say self (what ++ ": " ++ shown (target.getD "standard output") ++ ": " ++ fault.words)
      fail self "write error" 2

end Sorting

/-- Sorts lines. -/
def sort : Tool := fun self arguments =>
  withSettings Sorting.choices ({} : Sorting.Settings) Sorting.Settings.add self
    (Sorting.withoutOldKeys arguments) (fun s operands => do
      let some paths ← Sorting.filesFrom self s operands | return
      if let some letters := s.conflict? then
        return ← fail self ("options '-" ++ letters ++ "' are incompatible") 2
      match s.checks, paths with
      | some letter, [path] =>
          if s.output.isSome then
            fail self ("options '-" ++ letter.toString ++ "o' are incompatible") 2
          else Sorting.check self s letter path
      | some letter, _ :: operand :: _ =>
          let extra := "extra operand " ++ cited operand
          fail self (extra ++ " not allowed with -" ++ letter.toString) 2
      | _, _ => Sorting.sortFiles self s paths) 2

end WasmBinary.Machine.Script.Tool
