/-
  Counting what is in files.

  1. **Counts** — lines, words, characters, bytes and the longest line.  White space ends a word;
     a word has at least one character that can be printed.

  2. **Width** — counts stand below each other, as wide as the number of all bytes, or wider where
     that is not known beforehand.

  3. **Names** of the files may come from a file themselves, with a zero byte behind each.
-/
import WasmBinary.Machine.Script.Tool.Basic

namespace WasmBinary.Machine.Script.Tool

open Run

/-! ## Counts -/

/-- What can be counted. -/
structure Counts where
  lines : Nat := 0
  words : Nat := 0
  bytes : Nat := 0
  longest : Nat := 0
deriving Inhabited

/-- The counts of two texts together. -/
def Counts.add (a b : Counts) : Counts :=
  ⟨a.lines + b.lines, a.words + b.words, a.bytes + b.bytes, max a.longest b.longest⟩

/-- Where a count is in a text. -/
structure Counting where
  counts : Counts := {}
  inWord : Bool := false
  column : Nat := 0

/-- Goes on with a character. -/
def Counting.step (s : Counting) (c : Char) : Counting :=
  let counts := { s.counts with
    bytes := s.counts.bytes + 1
    words := s.counts.words + (if isWhite c && s.inWord then 1 else 0) }
  let ended := { counts with longest := max counts.longest s.column }
  match c with
  | '\n' => { counts := { ended with lines := ended.lines + 1 }, inWord := false, column := 0 }
  | '\x0d' | '\x0c' => { counts := ended, inWord := false, column := 0 }
  | '\t' => { counts, inWord := false, column := s.column / 8 * 8 + 8 }
  | ' ' => { counts, inWord := false, column := s.column + 1 }
  | '\x0b' => { counts, inWord := false, column := s.column }
  | c =>
      if isPrintable c then { counts, inWord := true, column := s.column + 1 }
      else { s with counts }

/-- The counts of a text. -/
def Counts.of (text : String) : Counts :=
  let s := text.foldl Counting.step {}
  { s.counts with
    words := s.counts.words + (if s.inWord then 1 else 0)
    longest := max s.counts.longest s.column }

/-! ## What is wanted -/

/-- When a line with the sums is shown. -/
inductive Totals
  | several
  | always
  | only
  | never
deriving DecidableEq, Repr

/-- What is to be counted and shown. -/
structure CountSettings where
  letters : String := ""
  totals : Totals := .several
  namesFrom : Option String := none

/-- The counts that are wanted, in the order in which they are shown. -/
def CountSettings.selected (s : CountSettings) (counts : Counts) : List Nat :=
  let letters := if s.letters = "" then "lwc" else s.letters
  ("lwmcL".toList.filter letters.toList.contains).map fun
    | 'l' => counts.lines
    | 'w' => counts.words
    | 'L' => counts.longest
    | _ => counts.bytes

/-- What an option adds. -/
def CountSettings.add (s : CountSettings) (option : Given) : Except Misuse CountSettings := do
  match option.key with
  | "files0-from" => return { s with namesFrom := some option.value }
  | "total" =>
      let word ← choiceOf ["auto", "always", "only", "never"] option.value "--total"
      return { s with totals := match word with
        | "always" => .always
        | "only" => .only
        | "never" => .never
        | _ => .several }
  | letter => return { s with letters := s.letters ++ letter }

/-- Numbers with blanks in front up to a width, and a name behind them. -/
def countLine (width : Nat) (counts : List Nat) (name : String) : String :=
  " ".intercalate (counts.map (padded width)) ++ (if name = "" then "" else " " ++ name) ++ "\n"

/-- How wide counts are shown. -/
def countWidth (operands : List String) (s : CountSettings) : Run Nat := do
  if s.totals = .only then return 1
  if operands.length ≤ 1 && (s.selected {}).length = 1 then return 1
  let sizes ← (orInput operands).mapM fun path => do
    let node ← if path = "-" then do
        let some number ← opening? 0 | return some 0
        match (← openedAt? number).map Opened.target with
        | some (.node i) => pure ((← files).node? i)
        | _ => return none
      else do
        match ← nodeMeant path with
        | .error _ => return some 0
        | .ok node => pure (some node)
    return node.bind fun node => if node.isPlain then some node.size else none
  let total := sumOf (sizes.map fun size => size.getD 0)
  let width := (Nat.toDigits 10 total).length
  return if sizes.all Option.isSome then width else max 7 width

/-! ## Counting -/

/-- Counts one operand: the counts, and whether it could be read. -/
def countOperand (self : String) (s : CountSettings) (width : Nat) (path name : String) :
    Run (Counts × Bool) := do
  let line (counts : Counts) : Run Unit := do
    if s.totals ≠ .only then emit (countLine width (s.selected counts) name)
  match ← openOperand path with
  | .error fault =>
      say self (shown path ++ ": " ++ fault.words)
      return ({}, false)
  | .ok number =>
      match ← readOpened number .whole with
      | .ok data =>
          let counts := Counts.of (ByteText.ofBytes data)
          line counts
          return (counts, true)
      | .error fault =>
          say self (shown path ++ ": " ++ fault.words)
          line {}
          return ({}, false)

/-- Counts all operands. -/
def countAll (self : String) (s : CountSettings) (width : Nat) (operands : List String)
    (check : String → Nat → Option String) (named : Bool) : Run Unit := do
  let results ← operands.zipIdx.mapM fun (path, i) => do
    match check path i with
    | some text =>
        say self text
        return ({}, false)
    | none => countOperand self s width path (if named then path else "")
  let total := results.foldl (fun sum (counts, _) => sum.add counts) {}
  match s.totals, operands.length with
  | .never, _ | .several, 0 | .several, 1 => pure ()
  | .only, _ => emit (countLine width (s.selected total) "")
  | _, _ => emit (countLine width (s.selected total) "total")
  finishWith (results.all (·.2))

/-- Counts lines, words and bytes. -/
def count : Tool := fun self arguments =>
  withSettings "c,bytes m,chars l,lines w,words --files0-from= L,max-line-length --total=" {}
    CountSettings.add self arguments fun s operands => do
      match s.namesFrom with
      | none =>
          let width ← countWidth operands s
          let wrong (name : String) (_ : Nat) : Option String :=
            if name = "" then some "invalid zero-length file name" else none
          countAll self s width (orInput operands) wrong (!operands.isEmpty)
      | some list =>
          if let operand :: _ := operands then return ← refuseOperand self operand
          match ← openOperand list with
          | .error fault =>
              fail self ("cannot open " ++ quoted list ++ " for reading: " ++ fault.words)
          | .ok number =>
              match ← readOpened number .whole with
              | .error fault => fail self (list ++ ": read error: " ++ fault.words)
              | .ok data =>
                  let names := recordsOf '\x00' (ByteText.ofBytes data)
                  let wrong (name : String) (i : Nat) : Option String := nameFault? list name i
                  let plain ← isPlainInput list
                  let width ← if plain then countWidth names s else pure 1
                  countAll self s width names wrong true
where
  /-- Whether names come from a plain file. -/
  isPlainInput (list : String) : Run Bool := do
    if list ≠ "-" then isPlainFile list
    else
      let some number ← opening? 0 | return false
      match (← openedAt? number).map Opened.target with
      | some (.node i) => return ((← files).node? i).any Node.isPlain
      | _ => return false

end WasmBinary.Machine.Script.Tool
