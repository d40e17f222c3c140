/-
  The tool that cuts a file where lines fit.

  1. **Places** are the numbers of lines, or lines that fit an expression, with a distance from
     there.  A place may count several times.

  2. **Sections** end in front of the places.  Those that lead to some places are left out.

  3. **Failure** — when a place is not there, the files that have been made are taken away again.
-/
import WasmBinary.Machine.Script.Format
import WasmBinary.Machine.Script.Regex.Matching
import WasmBinary.Machine.Script.Regex.Reading
import WasmBinary.Machine.Script.Tool.Remove

namespace WasmBinary.Machine.Script.Tool

open Run

namespace Sections

/-- Where a section ends. -/
inductive Target
  | line (n : Nat)
  | fitting (r : Regex) (skips : Bool) (offset : Int)

/-- A place, and how often it counts again; without a number, as often as possible. -/
structure Place where
  written : String
  target : Target
  again : Option Nat := some 0

/-- How a file is cut. -/
structure Settings where
  lead : String := "xx"
  digits : Nat := 2
  format : Option String := none
  keeps : Bool := false
  silent : Bool := false
  skipsEmpty : Bool := false
  /-- Whether the lines that fit are left out. -/
  dropsMatched : Bool := false

/-! ## Options and places -/

/-- Takes an option into account. -/
def Settings.add (s : Settings) (option : Given) : Except Misuse Settings := do
  match option.key with
  | "f" => return { s with lead := option.value }
  | "n" =>
      return { s with digits := ← amountOr "invalid number" "" option.value 0 (Nat.pow 2 31 - 1) }
  | "b" => return { s with format := some option.value }
  | "k" => return { s with keeps := true }
  | "s" | "q" => return { s with silent := true }
  | "z" => return { s with skipsEmpty := true }
  | "suppress-matched" => return { s with dropsMatched := true }
  | _ => return s

/-- What is wrong with a format for the ends of names. -/
def formatFault? (format : String) : Option String :=
  let rec check : Nat → (seen : Bool) → List Char → Option String
    | 0, _, _ => none
    | _, seen, [] =>
        if seen then none else some "missing % conversion specification in suffix"
    | n + 1, seen, '%' :: '%' :: rest => check n seen rest
    | n + 1, seen, '%' :: rest =>
        let rest := rest.dropWhile fun c => "-+ #0'123456789.".toList.contains c
        match rest with
        | [] => some "missing conversion specifier in suffix"
        | c :: rest =>
            if !"diouxX".toList.contains c then
              some ("invalid conversion specifier in suffix: " ++ c.toString)
            else if seen then some "too many % conversion specifications in suffix"
            else check n true rest
    | n + 1, seen, _ :: rest => check n seen rest
  check (format.length + 1) false format.toList

/-- The place that a word with delimiters describes. -/
def fittingPlace (word : String) (delimiter : Char) (body : List Char) : Except Misuse Place := do
  let (source, behind) := closed body
  match behind with
  | none =>
      throw (.plain (word ++ ": closing delimiter '" ++ delimiter.toString ++ "' missing"))
  | some rest =>
      let r ← match Regex.parse .basic (String.ofList source) with
        | .ok (r, _) => pure r
        | .error fault =>
            throw (.plain (cited word ++ ": invalid regular expression: " ++ fault))
      let offset ← match rest with
        | [] => pure 0
        | _ =>
            match Numeral.integer? (String.ofList rest) with
            | some (n, "") => pure n
            | _ => throw (.plain (cited word ++ ": integer expected after delimiter"))
      return { written := word, target := .fitting r (delimiter = '%') offset }
where
  /-- What is in front of the last delimiter, and what is behind it. -/
  closed (body : List Char) : List Char × Option (List Char) :=
    let behind := (body.reverse.takeWhile (· ≠ delimiter)).reverse
    if behind.length = body.length then (body, none)
    else (body.take (body.length - behind.length - 1), some behind)

/-- The number of times that a word between braces asks for; nothing means always. -/
def timesOf (word : String) : Except Misuse (Option Nat) :=
  if !word.endsWith "\x7d" then
    .error (.plain (cited word ++ ": '\x7d' is required in repeat count"))
  else
    match ((word.drop 1).dropEnd 1).toString with
    | "*" => .ok none
    | text =>
        match text.toNat? with
        | some n => .ok (some n)
        | none =>
            .error (.plain (cited ((word.dropEnd 1).toString) ++
              "\x7d: integer required between '\x7b' and '\x7d'"))

/-- The place that a word describes, behind the number of a line, with a warning about it. -/
def placeOf (last : Nat) (word : String) : Except Misuse (Place × Nat × Option String) := do
  match word.toList with
  | '/' :: body => return (← fittingPlace word '/' body, last, none)
  | '%' :: body => return (← fittingPlace word '%' body, last, none)
  | _ =>
      match word.toNat? with
      | none => throw (.plain (cited word ++ ": invalid pattern"))
      | some 0 => throw (.plain (word ++ ": line number must be greater than zero"))
      | some n =>
          if n < last then
            throw (.plain ("line number " ++ cited word ++
              " is smaller than preceding line number, " ++ toString last))
          let warning := if n = last then
              some ("warning: line number " ++ cited word ++
                " is the same as preceding line number")
            else none
          return ({ written := word, target := .line n }, n, warning)

/-- The places that words describe, and the warnings about them. -/
def placesOf : Nat → (last : Nat) → List String → Except Misuse (List Place × List String)
  | 0, _, _ | _, _, [] => return ([], [])
  | n + 1, last, word :: rest => do
      let (place, last, warning) ← placeOf last word
      let (place, rest) ← match rest with
        | next :: others => do
            if next.startsWith "\x7b" then pure ({ place with again := ← timesOf next }, others)
            else pure (place, rest)
        | [] => pure (place, rest)
      let (places, warnings) ← placesOf n last rest
      return (place :: places, warning.toList ++ warnings)

/-! ## Cutting -/

/-- A file while it is cut. -/
structure Cutting where
  lines : Array String
  /-- How many lines have been taken, and the last line that was looked at. -/
  taken : Nat := 0
  current : Nat := 0
  /-- The sections so far, the last one first. -/
  sections : List String := []

/-- How cutting ends early. -/
inductive Stop
  | done
  | fault (text : String)

/-- A step of cutting. -/
abbrev Step := EStateM Stop Cutting

/-- Takes lines up to a number of a line, and tells whether there were enough of them. -/
def takeUpTo (next : Nat) : Step (String × Bool) := do
  let c ← get
  let count := next - (c.taken + 1)
  let found := min count (c.lines.size - c.taken)
  let text := String.join (c.lines.extract c.taken (c.taken + found)).toList
  let taken := c.taken + found
  set { c with taken, current := max c.current taken }
  return (text, found = count)

/-- Takes all lines that are left. -/
def takeRest : Step String := do return (← takeUpTo ((← get).lines.size + 1)).1

/-- Closes a section. -/
def close (text : String) : Step Unit := modify fun c => { c with sections := text :: c.sections }

/-- Leaves the next line out. -/
def dropLine : Step Unit := do
  let c ← get
  let _ ← takeUpTo (c.taken + 2)

/-- What is told about a repetition. -/
def onRepetition (n : Nat) : String :=
  if n = 0 then "" else " on repetition " ++ toString n

/-- Cuts in front of a line. -/
def cutAtLine (s : Settings) (n repetition : Nat) : Step Unit := do
  let fault {α : Type} : Step α :=
    throw (.fault (cited (toString n) ++ ": line number out of range" ++ onRepetition repetition))
  let ended : Step Bool := do return (← get).lines.size ≤ (← get).taken
  if s.dropsMatched && (← ended) then
    close ""
    fault
  let (text, enough) ← takeUpTo (n * (repetition + 1))
  close text
  if !enough then fault
  if s.dropsMatched then dropLine
  else if ← ended then fault

/-- The first line behind the current one that fits. -/
def fittingLine? (c : Cutting) (r : Regex) : Option Nat :=
  ((List.range (c.lines.size - c.current)).find? fun i =>
    let line := bare (c.lines.getD (c.current + i) "")
    (Regex.Searcher.of { text := line.toList.toArray } r).found).map fun i => c.current + i + 1

/-- Cuts in front of a line that fits. -/
def cutWhereFits (s : Settings) (p : Place) (r : Regex) (skips : Bool) (offset : Int)
    (repetition : Nat) : Step Unit := do
  let keep (text : String) : Step Unit := if skips then pure () else close text
  let outside {α : Type} : Step α :=
    throw (.fault (cited p.written ++ ": line number out of range"))
  match fittingLine? (← get) r with
  | none =>
      keep (← takeRest)
      if p.again.isNone then throw .done
      throw (.fault (cited p.written ++ ": match not found" ++ onRepetition repetition))
  | some line =>
      modify fun c => { c with current := line }
      let stop := (line : Int) + offset
      if stop < ((← get).taken : Int) + 1 then
        keep ""
        outside
      let (text, enough) ← takeUpTo stop.toNat
      keep text
      if !enough then outside
      if 0 < offset then modify fun c => { c with current := stop.toNat }
      if s.dropsMatched then dropLine

/-- Cuts at a place, again and again. -/
def cutAt (s : Settings) (p : Place) : Nat → (repetition : Nat) → Step Unit
  | 0, _ => return
  | n + 1, repetition => do
      if p.again.any (· < repetition) then return
      match p.target with
      | .line n => cutAtLine s n repetition
      | .fitting r skips offset => cutWhereFits s p r skips offset repetition
      cutAt s p n (repetition + 1)

/-- The sections of a text, and what went wrong. -/
def sectionsOf (s : Settings) (places : List Place) (text : String) :
    List String × Option String :=
  let lines := (linesOf text).toArray
  let work : Step Unit := do
    for p in places do cutAt s p (lines.size + 2 + p.again.getD 0) 0
    close (← takeRest)
  match work.run { lines } with
  | .ok _ c | .error .done c => (c.sections.reverse, none)
  | .error (.fault text) c => (c.sections.reverse, some text)

/-- The name of a section. -/
def Settings.nameOf (s : Settings) (n : Nat) : String :=
  match s.format with
  | none => s.lead ++ String.ofList ((Nat.toDigits 10 n).leftpad s.digits '0')
  | some format => s.lead ++ String.ofList (fill (format.length + 1) format.toList)
where
  /-- A format with the number in it. -/
  fill : Nat → List Char → List Char
    | 0, cs => cs
    | _, [] => []
    | fuel + 1, '%' :: '%' :: rest => '%' :: fill fuel rest
    | fuel + 1, '%' :: rest =>
        let flags := rest.takeWhile fun c => "-+ #0'".toList.contains c
        let rest := rest.drop flags.length
        let width := rest.takeWhile Char.isDigit
        let rest := rest.drop width.length
        let (precision, rest) := match rest with
          | '.' :: more =>
              let digits := more.takeWhile Char.isDigit
              (some (Nat.ofDigitChars 10 digits 0), more.drop digits.length)
          | _ => (none, rest)
        let style : Numeral.Style :=
          { left := flags.contains '-', plus := flags.contains '+', blank := flags.contains ' '
            zeros := flags.contains '0', alternative := flags.contains '#'
            width := Nat.ofDigitChars 10 width 0, precision }
        match rest with
        | c :: rest =>
            let text := if c = 'd' || c = 'i' then style.integer n else style.natural c n
            text.toList ++ fill fuel rest
        | [] => []
    | fuel + 1, c :: rest => c :: fill fuel rest

/-- Writes sections: their paths, the last one first; nothing more is written when that is
    impossible. -/
def writeSections (s : Settings) (self : String) : List String → (paths : List String) →
    Run (List String × Bool)
  | [], paths => return (paths, true)
  | text :: rest, paths => do
      if s.skipsEmpty && text = "" then writeSections s self rest paths
      else
        let path := s.nameOf paths.length
        match ← openPath path .replace with
        | .error fault =>
            say self (shown path ++ ": " ++ fault.words)
            return (paths, false)
        | .ok number =>
            let _ ← writeOpened number (ByteText.toBytes text)
            if !s.silent then emit (toString text.length ++ "\n")
            writeSections s self rest (path :: paths)

/-- Takes a file away, if that is possible. -/
def forget (path : String) : Run Unit := do
  if let .ok spot ← spotOf path false then
    if let .ok i := (← files).nodeOf spot then
      let _ ← dropName spot i

end Sections

/-- Cuts a file where lines fit. -/
def cutSections : Tool := fun self arguments =>
  withSettings ("n,digits= s,quiet,silent k,keep-files z,elide-empty-files f,prefix= " ++
      "b,suffix-format= --suppress-matched q") {} Sections.Settings.add self arguments
    fun s operands => do
      if let some fault := s.format.bind Sections.formatFault? then return ← fail self fault
      match operands with
      | [] => misuse self "missing operand"
      | [path] => misuse self ("missing operand after " ++ quoted path)
      | path :: words =>
          let text ← readOperand path .whole
          let unread := text matches .error .isADirectory
          match if unread then .ok "" else text with
          | .error fault =>
              fail self ("cannot open " ++ quoted path ++ " for reading: " ++ fault.words)
          | .ok text =>
              match Sections.placesOf (words.length + 1) 0 words with
              | .error m => m.report self 1
              | .ok (places, warnings) =>
                  for warning in warnings do say self warning
                  let (sections, fault) :=
                    if unread then ([""], some ("read error: " ++ FileFault.isADirectory.words))
                    else Sections.sectionsOf s places text
                  if let some fault := fault then say self fault
                  let (paths, fine) ← Sections.writeSections s self sections []
                  let fine := fine && fault.isNone
                  if !fine && !s.keeps then
                    for path in paths do Sections.forget path
                  finishWith fine

end WasmBinary.Machine.Script.Tool
