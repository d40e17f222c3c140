/-
  Relating the lines of two files that are in order.

  1. **Common lines** — each line stands in the column of the file that has it, or in the one for
     lines that both have.

  2. **Joined lines** have the same key: the fields of both stand on one line.

  3. **Order** — a line that is out of order is told when it could make a difference.
-/
import WasmBinary.Machine.Script.Tool.Sorting.Order

namespace WasmBinary.Machine.Script.Tool

open Run

/-! ## Two files -/

/-- Reads two files, of which neither may be missing. -/
def readBoth (self : String) (first second : String) (said : String → FileFault → String) :
    Run (Option (String × String)) := do
  let openOne (path : String) : Run (Option Nat) := do
    match ← openOperand path with
    | .ok number => return some number
    | .error fault =>
        fail self (shown path ++ ": " ++ fault.words)
        return none
  let readOne (path : String) (number : Nat) : Run (Option String) := do
    match ← readOpened number .flow with
    | .ok data => return some (ByteText.ofBytes data)
    | .error fault =>
        fail self (said path fault)
        return none
  let some a ← openOne first | return none
  let some text ← readOne first a | return none
  let some b ← openOne second | return none
  let some other ← readOne second b | return none
  return some (text, other)

/-- Whether a disorder is told: never, always, or only if lines could not be paired. -/
inductive OrderCheck
  | never
  | always
  | unpaired
deriving DecidableEq

/-- What has been written, the latest first, and which files are known to be out of order. -/
structure RelatingState where
  written : List String := []
  disordered : List Nat := []
  unpaired : Bool := false

/-- A computation that relates lines. -/
abbrev Relating := StateT RelatingState Run

namespace Relating

/-- Keeps a text to be written. -/
def write (text : String) : Relating Unit :=
  modify fun s => { s with written := text :: s.written }

/-- Writes what was kept. -/
def release : Relating Unit := do
  let s ← get
  set { s with written := [] }
  emit (String.join s.written.reverse)

/-- Tells that a file is out of order, if that matters; that may be the end. -/
def tellDisorder (self : String) (check : OrderCheck) (file : Nat) (text : String) :
    Relating Unit := do
  let s ← get
  if check ≠ .never && (check = .always || s.unpaired) && !s.disordered.contains file then
    release
    if check = .always then
      fail self text
      throw .failed
    else
      say self text
      modify fun s => { s with disordered := file :: s.disordered }

/-- Fails at the end if a file was out of order. -/
def conclude (self : String) : Relating Unit := do
  release
  if (← get).disordered.isEmpty then finish 0
  else fail self "input is not in sorted order"

end Relating

/-! ## Common lines -/

/-- What is shown of common lines. -/
structure CommonSettings where
  hidden : List Nat := []
  check : OrderCheck := .unpaired
  between : Option String := none
  total : Bool := false
  ending : Char := '\n'

namespace CommonSettings

/-- What an option adds. -/
def add (s : CommonSettings) (option : Given) : Except Misuse CommonSettings :=
  match option.key with
  | "1" => .ok { s with hidden := 1 :: s.hidden }
  | "2" => .ok { s with hidden := 2 :: s.hidden }
  | "3" => .ok { s with hidden := 3 :: s.hidden }
  | "check-order" => .ok { s with check := .always }
  | "nocheck-order" => .ok { s with check := .never }
  | "output-delimiter" =>
      let text := if option.value = "" then "\x00" else option.value
      if s.between.any fun other => other ≠ text then
        .error (.plain "multiple output delimiters specified")
      else .ok { s with between := some text }
  | "total" => .ok { s with total := true }
  | "z" => .ok { s with ending := '\x00' }
  | _ => .ok s

/-- What stands between columns. -/
def gap (s : CommonSettings) : String := s.between.getD "\t"

/-- A line in its column. -/
def column (s : CommonSettings) (number : Nat) (line : String) : String :=
  if s.hidden.contains number then ""
  else
    let before := (List.range number).filter fun n => 0 < n && !s.hidden.contains n
    String.join (before.map fun _ => s.gap) ++ line.push s.ending

end CommonSettings

/-- Checks the order of the line in front against the one before it. -/
def checkCommon (self : String) (s : CommonSettings) (file : Nat) (before : List String)
    (rest : List String) : Relating Unit := do
  let check (a b : String) : Relating Unit := do
    if b < a then
      Relating.tellDisorder self s.check file
        ("file " ++ toString file ++ " is not in sorted order")
  match rest, before with
  | line :: _, last :: _ => check last line
  | [], last :: previous :: _ => check previous last
  | _, _ => return

/-- Writes the lines of two files in their columns, and counts them.  The lines that have been read
    are given for each file, at most two of them. -/
def relateCommon (self : String) (s : CommonSettings) :
    Nat → (seen others : List String) → (a b : List String) → Nat × Nat × Nat →
    Relating (Nat × Nat × Nat)
  | 0, _, _, _, _, counts => return counts
  | n + 1, seen, others, a, b, (x, y, z) => do
      let order : Ordering := match a, b with
        | [], _ => .gt
        | _, [] => .lt
        | first :: _, second :: _ => compare first second
      match order, a, b with
      | .lt, line :: rest, b =>
          Relating.write (s.column 1 line)
          modify fun r => { r with unpaired := true }
          let seen := line :: seen.take 1
          checkCommon self s 1 seen rest
          relateCommon self s n seen others rest b (x + 1, y, z)
      | .gt, a, line :: rest =>
          Relating.write (s.column 2 line)
          modify fun r => { r with unpaired := true }
          let others := line :: others.take 1
          checkCommon self s 2 others rest
          relateCommon self s n seen others a rest (x, y + 1, z)
      | .eq, line :: rest, other :: more =>
          Relating.write (s.column 3 line)
          let (seen, others) := (line :: seen.take 1, other :: others.take 1)
          checkCommon self s 1 seen rest
          checkCommon self s 2 others more
          relateCommon self s n seen others rest more (x, y, z + 1)
      | _, _, _ => return (x, y, z)

/-- Writes common lines and others in columns. -/
def common : Tool := fun self arguments =>
  let choices :=
    "1 2 3 z,zero-terminated --check-order --nocheck-order --output-delimiter= --total"
  withSettings choices ({} : CommonSettings) CommonSettings.add self arguments fun s operands => do
    match operands with
    | [] => misuse self "missing operand"
    | [a] => misuse self ("missing operand after " ++ cited a)
    | _ :: _ :: c :: _ => misuse self ("extra operand " ++ cited c)
    | [a, b] =>
        let said (path : String) (fault : FileFault) : String := shown path ++ ": " ++ fault.words
        let some (first, second) ← readBoth self a b said | return
        let (first, second) := (recordsOf s.ending first, recordsOf s.ending second)
        let relating : Relating Unit := do
          let size := first.length + second.length + 1
          let (x, y, z) ← relateCommon self s size [] [] first second (0, 0, 0)
          if a = "-" && b = "-" then
            Relating.release
            fail self ("-: " ++ badStream.words)
            return
          if s.total then
            Relating.write (s.gap.intercalate [toString x, toString y, toString z, "total"] ++
              s.ending.toString)
          Relating.conclude self
        let _ ← relating.run {}

/-! ## Joined lines -/

/-- A field that is written: the one by which lines are joined, or a field of one of both lines. -/
inductive JoinField
  | key
  | field (file number : Nat)

/-- How lines are joined. -/
structure JoinSettings where
  /-- The fields by which lines are joined, counted from zero. -/
  first : Option Nat := none
  second : Option Nat := none
  separator : Option Char := none
  /-- What is written for fields that are empty or missing. -/
  filler : Option String := none
  fields : List JoinField := []
  /-- Whether all lines have as many fields as the first ones. -/
  uniform : Bool := false
  /-- The files whose lines are written even if they cannot be paired. -/
  unpaired : List Nat := []
  /-- Whether pairs are written. -/
  pairs : Bool := true
  folded : Bool := false
  check : OrderCheck := .unpaired
  header : Bool := false
  ending : Char := '\n'

namespace JoinSettings

/-- The place of a field that a text means. -/
def place (text : String) : Except Misuse Nat :=
  match amount "" text with
  | .ok 0 => .error (.plain ("invalid field number: " ++ cited text))
  | .ok n => .ok (n - 1)
  | .error .tooLarge => .ok (Nat.pow 2 64)
  | .error _ => .error (.plain ("invalid field number: " ++ cited text))

/-- Sets a field by which lines are joined. -/
def joinField (before : Option Nat) (n : Nat) : Except Misuse (Option Nat) :=
  match before with
  | some m =>
      if m = n then .ok before
      else .error (.plain ("incompatible join fields " ++ toString m ++ ", " ++ toString n))
  | none => .ok (some n)

/-- The file that a text means. -/
def fileOf (text : String) : Except Misuse Nat :=
  match amount "" text with
  | .ok 1 => .ok 1
  | .ok 2 => .ok 2
  | _ => .error (.plain ("invalid field number: " ++ cited text))

/-- A field that is to be written. -/
def fieldOf (text : String) : Except Misuse JoinField :=
  match text.toList with
  | ['0'] => .ok .key
  | '0' :: _ => .error (.plain ("invalid field specifier: " ++ cited text))
  | file :: rest =>
      if file = '1' || file = '2' then
        match rest with
        | '.' :: digits => (place (String.ofList digits)).map (.field (file.toNat - 48))
        | _ => .error (.plain ("invalid field specifier: " ++ cited text))
      else .error (.plain ("invalid file number in field spec: " ++ cited text))
  | [] => .error (.plain ("invalid file number in field spec: " ++ cited text))

/-- What an option adds. -/
def add (s : JoinSettings) (option : Given) : Except Misuse JoinSettings := do
  let value := option.value
  match option.key with
  | "1" => return { s with first := ← joinField s.first (← place value) }
  | "2" => return { s with second := ← joinField s.second (← place value) }
  | "j" =>
      let n ← place value
      return { s with first := ← joinField s.first n, second := ← joinField s.second n }
  | "a" => return { s with unpaired := (← fileOf value) :: s.unpaired }
  | "v" => return { s with unpaired := (← fileOf value) :: s.unpaired, pairs := false }
  | "e" =>
      if s.filler.any fun other => other ≠ value then
        throw (.plain "conflicting empty-field replacement strings")
      return { s with filler := some value }
  | "i" => return { s with folded := true }
  | "o" =>
      if value = "auto" then return { s with uniform := true }
      let words := value.splitToList fun c => c = ' ' || c = ',' || c = '\t'
      return { s with fields := s.fields ++ (← words.mapM fieldOf) }
  | "t" =>
      let c ← match value.toList with
        | [] => pure '\n'
        | [c] => pure c
        | ['\\', '0'] => pure '\x00'
        | _ => throw (.plain ("multi-character tab " ++ cited value))
      if s.separator.any fun other => other ≠ c then throw (.plain "incompatible tabs")
      return { s with separator := some c }
  | "z" => return { s with ending := '\x00' }
  | "check-order" => return { s with check := .always }
  | "nocheck-order" => return { s with check := .never }
  | "header" => return { s with header := true }
  | _ => return s

/-- The field by which the lines of a file are joined. -/
def keyField (s : JoinSettings) (file : Nat) : Nat :=
  (if file = 1 then s.first else s.second).getD 0

end JoinSettings

/-- A line that is joined. -/
structure JoinLine where
  text : String
  fields : Array String
  key : String

/-- The fields of a line. -/
def joinFields (separator : Option Char) (line : String) : List String :=
  match separator with
  | some c => if line = "" then [] else line.splitToList (· = c)
  | none =>
      let cs := line.toList.dropWhile Sorting.isBlank
      if cs.isEmpty then [] else words (line.length + 1) cs
where
  /-- The words between blanks; behind blanks at the end there is an empty one. -/
  words : Nat → List Char → List String
    | 0, _ => []
    | n + 1, cs =>
        let word := cs.takeWhile fun c => !Sorting.isBlank c
        let rest := cs.drop word.length
        String.ofList word ::
          if rest.isEmpty then [] else words n (rest.dropWhile Sorting.isBlank)

namespace JoinSettings

/-- A line of a file, ready to be joined. -/
def line (s : JoinSettings) (file : Nat) (text : String) : JoinLine :=
  let fields := (joinFields s.separator text).toArray
  let key := fields.getD (s.keyField file) ""
  { text, fields, key := if s.folded then key.map Char.toUpper else key }

/-- The text of a field. -/
def fieldText (s : JoinSettings) (line : Option JoinLine) (n : Nat) : String :=
  match line.bind fun line => line.fields[n]? with
  | some text => if text = "" then s.filler.getD "" else text
  | none => s.filler.getD ""

/-- The line that two lines come to, of which one may be missing.  The numbers of fields count where
    all lines have the same. -/
def joined (s : JoinSettings) (widths : Nat × Nat) (a b : Option JoinLine) : String :=
  let gap := (s.separator.getD ' ').toString
  let keyText := if a.isSome then s.fieldText a (s.keyField 1) else s.fieldText b (s.keyField 2)
  let others (file width : Nat) (line : Option JoinLine) : List String :=
    let width := if s.uniform then width else (line.map fun line => line.fields.size).getD 0
    ((List.range width).filter (· ≠ s.keyField file)).map (s.fieldText line)
  let fields := if s.fields.isEmpty then
      keyText :: others 1 widths.1 a ++ others 2 widths.2 b
    else s.fields.map fun
      | .key => keyText
      | .field file n => s.fieldText (if file = 1 then a else b) n
  gap.intercalate fields ++ s.ending.toString

end JoinSettings

/-- Checks the order of lines of a file, from a line with a number on. -/
def checkJoin (self : String) (s : JoinSettings) (names : String × String) (file number : Nat)
    (before line : JoinLine) : Relating Unit := do
  if line.key < before.key then
    Relating.tellDisorder self s.check file
      ((if file = 1 then names.1 else names.2) ++ ":" ++ toString number ++ ": is not sorted: " ++
        line.text)

/-- The lines of a file that are left: the number of the one in front, and the lines. -/
structure JoinSide where
  file : Nat
  number : Nat := 1
  lines : List JoinLine

/-- Takes a line: what is left. -/
def JoinSide.step (self : String) (s : JoinSettings) (names : String × String) (side : JoinSide) :
    Relating JoinSide := do
  match side.lines with
  | a :: b :: rest =>
      checkJoin self s names side.file (side.number + 1) a b
      return { side with number := side.number + 1, lines := b :: rest }
  | lines => return { side with number := side.number + 1, lines := lines.tail }

/-- Takes the lines with a key: these lines, and what is left. -/
def JoinSide.takeKey (self : String) (s : JoinSettings) (names : String × String) (key : String) :
    Nat → JoinSide → Relating (List JoinLine × JoinSide)
  | 0, side => return ([], side)
  | n + 1, side => do
      match side.lines with
      | line :: _ =>
          if line.key = key then
            let next ← side.step self s names
            let (taken, rest) ← takeKey self s names key n next
            return (line :: taken, rest)
          else return ([], side)
      | [] => return ([], side)

/-- Joins the lines of two files. -/
def relateJoined (self : String) (s : JoinSettings) (names : String × String) (widths : Nat × Nat) :
    Nat → JoinSide → JoinSide → Relating (JoinSide × JoinSide)
  | 0, a, b => return (a, b)
  | n + 1, a, b => do
      match a.lines, b.lines with
      | x :: _, y :: _ =>
          let key := x.key
          match compare x.key y.key with
          | .lt =>
              if s.unpaired.contains 1 then Relating.write (s.joined widths (some x) none)
              let a ← a.step self s names
              modify fun r => { r with unpaired := true }
              relateJoined self s names widths n a b
          | .gt =>
              if s.unpaired.contains 2 then Relating.write (s.joined widths none (some y))
              let b ← b.step self s names
              modify fun r => { r with unpaired := true }
              relateJoined self s names widths n a b
          | .eq =>
              let (xs, a) ← a.takeKey self s names key (a.lines.length + 1)
              let (ys, b) ← b.takeKey self s names key (b.lines.length + 1)
              if s.pairs then
                for x in xs do
                  for y in ys do Relating.write (s.joined widths (some x) (some y))
              relateJoined self s names widths n a b
      | _, _ => return (a, b)

/-- Goes through the lines of a file that are left at the end. -/
def joinRest (self : String) (s : JoinSettings) (names : String × String) (widths : Nat × Nat)
    (othersLeft : Bool) : Nat → JoinSide → Relating Unit
  | 0, _ => return
  | n + 1, side => do
      match side.lines with
      | [] => return
      | line :: _ =>
          if s.unpaired.contains side.file then
            let (a, b) := if side.file = 1 then (some line, none) else (none, some line)
            Relating.write (s.joined widths a b)
          if othersLeft then modify fun r => { r with unpaired := true }
          joinRest self s names widths othersLeft n (← side.step self s names)

/-- The arguments with old options in the form of others. -/
def withoutOldJoins : List String → List String
  | [] => []
  | "--" :: rest => "--" :: rest
  | "-j1" :: n :: rest =>
      if isNumber n then "-1" :: n :: withoutOldJoins rest else "-j1" :: withoutOldJoins (n :: rest)
  | "-j2" :: n :: rest =>
      if isNumber n then "-2" :: n :: withoutOldJoins rest else "-j2" :: withoutOldJoins (n :: rest)
  | "-o" :: fields :: rest =>
      let more := rest.takeWhile isFields
      "-o" :: ",".intercalate (fields :: more) :: withoutOldJoins (rest.drop more.length)
  | word :: rest => word :: withoutOldJoins rest
termination_by words => words.length
decreasing_by all_goals (simp_all; try omega)
where
  /-- Whether a word is a number. -/
  isNumber (word : String) : Bool := word ≠ "" && word.all Char.isDigit
  /-- Whether a word describes fields. -/
  isFields (word : String) : Bool :=
    (word.splitToList fun c => c = ',' || c = ' ').all fun part =>
      match part.toList with
      | ['0'] => true
      | file :: '.' :: digits =>
          (file = '1' || file = '2') && !digits.isEmpty && digits.all Char.isDigit
      | _ => false

/-- Joins lines that have the same key. -/
def join : Tool := fun self arguments =>
  let choices := "i,ignore-case --check-order --nocheck-order z,zero-terminated --header a= " ++
    "e= 1= 2= j= o= t= v="
  withSettings choices ({} : JoinSettings) JoinSettings.add self (withoutOldJoins arguments)
    fun s operands => do
      match operands with
      | [] => misuse self "missing operand"
      | [a] => misuse self ("missing operand after " ++ cited a)
      | _ :: _ :: c :: _ => misuse self ("extra operand " ++ cited c)
      | [a, b] =>
          if a = "-" && b = "-" then
            return ← fail self "both files cannot be standard input"
          let said (_ : String) (fault : FileFault) : String := "read error: " ++ fault.words
          let some (first, second) ← readBoth self a b said | return
          let sideOf (file : Nat) (text : String) : JoinSide :=
            { file, lines := (recordsOf s.ending text).map (s.line file) }
          let (x, y) := (sideOf 1 first, sideOf 2 second)
          let width (side : JoinSide) : Nat :=
            (side.lines.head?.map fun line => line.fields.size).getD 0
          let widths := (width x, width y)
          let names := (a, b)
          let tailed (side : JoinSide) : JoinSide :=
            { side with number := side.number + 1, lines := side.lines.tail }
          let relating : Relating Unit := do
            let (x, y) ← if s.header && !(x.lines.isEmpty && y.lines.isEmpty) then do
                Relating.write (s.joined widths x.lines.head? y.lines.head?)
                pure (tailed x, tailed y)
              else pure (x, y)
            let size := x.lines.length + y.lines.length + 1
            let (x, y) ← relateJoined self s names widths size x y
            let left := !x.lines.isEmpty && !y.lines.isEmpty
            joinRest self s names widths (left || !y.lines.isEmpty) size x
            joinRest self s names widths (left || !x.lines.isEmpty) size y
            Relating.conclude self
          let _ ← relating.run {}

end WasmBinary.Machine.Script.Tool
