/-
  Differences as texts.

  1. **Changes** are shown one by one, or together with lines around them; changes that are close to
     each other then share these lines.

  2. **Commands** make the second file of the first one.

  3. **Columns** — both files stand side by side, with a mark between lines that differ.
-/
import WasmBinary.Machine.Script.Tool.Differing.Changes
import WasmBinary.Machine.Script.Tool.Differing.Settings

namespace WasmBinary.Machine.Script.Tool.Differing

/-- A file to be compared. -/
structure Side where
  name : String
  lines : Array String
  /-- Whether the last line has an end. -/
  complete : Bool := true
  /-- How it is called in front of the differences. -/
  heading : String := ""
deriving Inhabited

/-- A side with the lines of a text. -/
def Side.ofText (name text : String) (stripsReturns : Bool) : Side :=
  let lines := text.splitOn "\n"
  let complete := lines.getLast? = some ""
  let lines := if complete then lines.dropLast else lines
  let strip (line : String) : String :=
    if stripsReturns && line.endsWith "\x0d" then (line.dropEnd 1).toString else line
  { name, lines := (lines.map strip).toArray, complete }

namespace Side

/-- Whether a line has an end. -/
def ended (s : Side) (i : Nat) : Bool := s.complete || i + 1 < s.lines.size

/-- A line behind something, with a note if it has no end. -/
def line (s : Side) (mark : String) (i : Nat) : String :=
  mark ++ s.lines.getD i "" ++ (if s.ended i then "\n" else "\n\\ No newline at end of file\n")

/-- Some lines behind a mark. -/
def several (s : Side) (mark : String) (first count : Nat) : String :=
  String.join ((List.range count).map fun i => s.line mark (first + i))

/-- Some lines as they are. -/
def bare (s : Side) (first count : Nat) : String :=
  String.join ((List.range count).map fun i => s.lines.getD (first + i) "" ++ "\n")

end Side

/-- Whether a change does not count. -/
def Change.isSkipped (c : Change) (s : Settings) (a b : Side) : Bool :=
  (s.skipsEmpty || !s.skipped.isEmpty) &&
    ((List.range c.deleted).all fun i => s.skips (a.lines.getD (c.first + i) "")) &&
    ((List.range c.inserted).all fun i => s.skips (b.lines.getD (c.second + i) ""))

/-- The letter for a change. -/
def Change.letter (c : Change) : String :=
  if c.inserted = 0 then "d" else if c.deleted = 0 then "a" else "c"

/-- The numbers of the first and of the last of some lines, or of the line in front. -/
def numbers (between : String) (first count : Nat) : String :=
  if 1 < count then toString (first + 1) ++ between ++ toString (first + count)
  else toString (first + count)

/-! ## One by one -/

/-- A line that is shown behind a mark. -/
def Settings.mark (s : Settings) (m : String) : String := m ++ (if s.initialTab then "\t" else " ")

/-- A side whose tabs are shown as blanks, if they are to be. -/
def Settings.shownSide (s : Settings) (side : Side) : Side :=
  let shown (line : String) : String :=
    String.ofList (Settings.untabbed s.tabSize 0 line.toList)
  if s.expandsTabs then { side with lines := side.lines.map shown } else side

/-- A change by itself. -/
def Change.normal (c : Change) (s : Settings) (a b : Side) : String :=
  numbers "," c.first c.deleted ++ c.letter ++ numbers "," c.second c.inserted ++ "\n" ++
    a.several (s.mark "<") c.first c.deleted ++
    (if c.deleted = 0 || c.inserted = 0 then "" else "---\n") ++
    b.several (s.mark ">") c.second c.inserted

/-- The lines that a command inserts, which a point ends.  A line that is just a point is written
    with two of them, and loses one by another command. -/
def insertedText : (isOpen : Bool) → (lines : List String) → String
  | isOpen, [] => if isOpen then ".\n" else ""
  | isOpen, line :: rest =>
      let opening := if isOpen then "" else "a\n"
      if line = "." then opening ++ "..\n.\ns/.//\n" ++ insertedText false rest
      else opening ++ line ++ "\n" ++ insertedText true rest

/-- A change as a command of an editor. -/
def Change.script (c : Change) (b : Side) : String :=
  numbers "," c.first c.deleted ++ c.letter ++ "\n" ++
    (if c.inserted = 0 then ""
    else insertedText true (b.lines.extract c.second (c.second + c.inserted)).toList)

/-- A change as a command whose letter is in front. -/
def Change.forward (c : Change) (b : Side) : String :=
  c.letter ++ numbers " " c.first c.deleted ++ "\n" ++
    (if c.inserted = 0 then "" else b.bare c.second c.inserted ++ ".\n")

/-- A change as commands that tell how many lines they are about. -/
def Change.counted (c : Change) (b : Side) : String :=
  let last := c.second + c.inserted
  (if c.deleted = 0 then ""
    else "d" ++ toString (c.first + 1) ++ " " ++ toString c.deleted ++ "\n") ++
  (if c.inserted = 0 then ""
    else "a" ++ toString (c.first + c.deleted) ++ " " ++ toString c.inserted ++ "\n" ++
      (if b.ended (last - 1) then b.bare c.second c.inserted
        else ((b.bare c.second c.inserted).dropEnd 1).toString))

/-! ## With lines around -/

/-- Changes that are so close that they are shown together. -/
def groups (s : Settings) (skipped : Change → Bool) : List Change → List (List Change)
  | [] => []
  | c :: rest =>
      match groups s skipped rest with
      | [] => [[c]]
      | group :: others =>
          match group with
          | [] => [c] :: others
          | next :: _ =>
              let apart := next.first - (c.first + c.deleted)
              let near := if skipped c || skipped next then s.context else 2 * s.context + 1
              if apart < near then (c :: group) :: others else [c] :: group :: others

/-- The lines that changes and the lines around them take in one side: the first one, and how
    many. -/
def extent (context size first last : Nat) : Nat × Nat :=
  let start := first - context
  (start, min size (last + context) - start)

/-- The last line in front of a place that is a heading. -/
def headingBefore (s : Settings) (a : Side) (place : Nat) : String :=
  match s.heading with
  | none => ""
  | some r =>
      let isHeading (i : Nat) : Bool :=
        (Regex.Searcher.of { text := (a.lines.getD i "").toList.toArray } r).found
      match (List.range place).reverse.find? isHeading with
      | none => ""
      | some i =>
          let cs := (a.lines.getD i "").toList.dropWhile Numeral.isBlank
          " " ++ String.ofList (Settings.trimmed (cs.take 40))

/-- The parts of both sides that some changes and the lines around them take. -/
def extents (s : Settings) (a b : Side) (group : List Change) : (Nat × Nat) × Nat × Nat :=
  let first := group.headD default
  let last := group.getLastD default
  (extent s.context a.lines.size first.first (last.first + last.deleted),
    extent s.context b.lines.size first.second (last.second + last.inserted))

/-- The numbers of lines as a heading of changes has them. -/
def unifiedNumbers (first count : Nat) : String :=
  if count = 1 then toString (first + 1)
  else toString (if count = 0 then first else first + 1) ++ "," ++ toString count

/-- Changes in one text with the lines around them. -/
def unifiedText (s : Settings) (a b : Side) (group : List Change) : String :=
  let ((start, count), (startThere, countThere)) := extents s a b group
  let common (first last : Nat) : String :=
    String.join ((List.range (last - first)).map fun i =>
      a.line (if s.bareBlank && a.lines.getD (first + i) "" = "" then "" else blankMark)
        (first + i))
  let rec body : Nat → List Change → String
    | place, [] => common place (start + count)
    | place, c :: rest =>
        common place c.first ++ a.several (markOf "-") c.first c.deleted ++
          b.several (markOf "+") c.second c.inserted ++ body (c.first + c.deleted) rest
  "@@ -" ++ unifiedNumbers start count ++ " +" ++ unifiedNumbers startThere countThere ++ " @@" ++
    headingBefore s a start ++ "\n" ++ body start group
where
  /-- The mark in front of lines that are the same. -/
  blankMark : String := if s.initialTab then "\t" else " "
  /-- A mark in front of a line that is not. -/
  markOf (m : String) : String := if s.initialTab then m ++ "\t" else m

/-- The lines of one side, with marks for those that changes take. -/
def contextLines (side : Side) (blank : String) (start count : Nat)
    (marks : List (Nat × Nat × String)) : String :=
  String.join ((List.range count).map fun i =>
    let place := start + i
    let mark := (marks.find? fun (first, count, _) => first ≤ place && place < first + count).map
      fun found => found.2.2
    side.line (mark.getD blank) place)

/-- Changes in two texts with the lines around them. -/
def contextText (s : Settings) (a b : Side) (group : List Change) : String :=
  let ((start, count), (startThere, countThere)) := extents s a b group
  let mark (m : String) : String := s.mark m
  let deleted := group.map fun c =>
    (c.first, c.deleted, mark (if c.inserted = 0 then "-" else "!"))
  let inserted := group.map fun c =>
    (c.second, c.inserted, mark (if c.deleted = 0 then "+" else "!"))
  "***************" ++ headingBefore s a start ++ "\n" ++
    "*** " ++ numbers "," start count ++ " ****\n" ++
    (if group.all fun c => c.deleted = 0 then ""
      else contextLines a (mark " ") start count deleted) ++
    "--- " ++ numbers "," startThere countThere ++ " ----\n" ++
    (if group.all fun c => c.inserted = 0 then ""
      else contextLines b (mark " ") startThere countThere inserted)

/-! ## Both in one -/

/-- Both files in one, with conditions that decide which lines count. -/
def mergedText (name : String) (a b : Side) : Nat → List Change → String
  | place, [] => plain a place a.lines.size
  | place, c :: rest =>
      let old := plain a c.first (c.first + c.deleted)
      let new := plain b c.second (c.second + c.inserted)
      plain a place c.first ++
        (if c.inserted = 0 then
            "#ifndef " ++ name ++ "\n" ++ old ++ "#endif /* ! " ++ name ++ " */\n"
          else if c.deleted = 0 then
            "#ifdef " ++ name ++ "\n" ++ new ++ "#endif /* " ++ name ++ " */\n"
          else
            "#ifndef " ++ name ++ "\n" ++ old ++ "#else /* " ++ name ++ " */\n" ++ new ++
              "#endif /* " ++ name ++ " */\n") ++
        mergedText name a b (c.first + c.deleted) rest
where
  /-- The lines from a place up to another. -/
  plain (side : Side) (first last : Nat) : String := side.bare first (last - first)

/-! ## Side by side -/

/-- How columns are laid out. -/
structure Layout where
  /-- How wide a column is at most. -/
  half : Nat
  /-- Where the second column starts. -/
  second : Nat
  tabSize : Nat
  expands : Bool

/-- The layout that settings ask for. -/
def Settings.layout (s : Settings) : Layout :=
  let tab := if s.expandsTabs then 1 else s.tabSize
  let offset := (s.width + tab + 3) / (2 * tab) * tab
  let half := min (offset - 3) (s.width - offset)
  { half, second := if half = 0 then s.width else offset, tabSize := s.tabSize
    expands := s.expandsTabs }

namespace Layout

/-- Goes from a column to another with tabs and blanks. -/
def gap (l : Layout) : Nat → (column stop : Nat) → List Char
  | 0, column, stop => List.replicate (stop - column) ' '
  | n + 1, column, stop =>
      let next := column + l.tabSize - column % l.tabSize
      if !l.expands && next ≤ stop then '\t' :: gap l n next stop
      else List.replicate (stop - column) ' '

/-- A line, as far as it fits into a column that starts somewhere, and the width of it. -/
def part (l : Layout) (start : Nat) : (column : Nat) → List Char → List Char × Nat
  | column, [] => ([], column)
  | column, '\t' :: rest =>
      let count := l.tabSize - column % l.tabSize
      if column + count ≤ l.half then
        let shown := if l.expands then List.replicate count ' ' else ['\t']
        let (more, last) := part l start (column + count) rest
        (shown ++ more, last)
      else if l.half = column then part l start column rest
      else
        let (more, last) := part l start l.half rest
        (l.gap (l.half - column) (start + column) (start + l.half) ++ more, last)
  | column, c :: rest =>
      if column < l.half then
        let (more, last) := part l start (column + 1) rest
        (c :: more, last)
      else ([], column)

/-- Lines of both sides with a mark between them. -/
def row (l : Layout) (mark : Char) (a b : Option (String × Bool)) : String :=
  let (left, column) := match a with
    | some (line, _) => l.part 0 0 line.toList
    | none => ([], 0)
  let leftEnds := a.any fun x => x.2
  let rightEnds := b.any fun x => x.2
  let mark := if mark = '|' && leftEnds ≠ rightEnds then (if leftEnds then '/' else '\\') else mark
  let (middle, column) :=
    if mark = ' ' then ([], column)
    else
      let place := (l.half + l.second - 1) / 2
      (l.gap place column place ++ [mark], place + 1)
  let right := match b with
    | some (line, _) =>
        if line = "" then []
        else l.gap l.second column l.second ++ (l.part l.second 0 line.toList).1
    | none => []
  String.ofList (left ++ middle ++ right) ++ (if leftEnds || rightEnds then "\n" else "")

end Layout

/-- A line with whether it has an end. -/
def Side.shown (s : Side) (i : Nat) : String × Bool := (s.lines.getD i "", s.ended i)

/-- Both files side by side. -/
def columnsText (s : Settings) (l : Layout) (a b : Side) : (x y : Nat) → List Change → String
  | x, y, [] => common x y (a.lines.size - x)
  | x, y, c :: rest =>
      let both := min c.deleted c.inserted
      let pairs := (List.range both).map fun i =>
        l.row '|' (a.shown (c.first + i)) (b.shown (c.second + i))
      let new := (List.range (c.inserted - both)).map fun i =>
        l.row '>' none (b.shown (c.second + both + i))
      let old := (List.range (c.deleted - both)).map fun i =>
        l.row '<' (a.shown (c.first + both + i)) none
      common x y (c.first - x) ++ String.join (pairs ++ new ++ old) ++
        columnsText s l a b (c.first + c.deleted) (c.second + c.inserted) rest
where
  /-- Lines that both have. -/
  common (x y count : Nat) : String :=
    if s.hidesCommon then ""
    else String.join ((List.range count).map fun i =>
      if s.onlyLeft then l.row '(' (a.shown (x + i)) none
      else l.row ' ' (a.shown (x + i)) (b.shown (y + i)))

/-! ## All together -/

/-- The changes between two files. -/
def changesOf (s : Settings) (a b : Side) : List Change :=
  let raw (side : Side) : List (String × Bool) :=
    (List.range side.lines.size).map fun i => side.shown i
  let (first, second) := (raw a, raw b)
  let front := commonCount first second
  let most := min first.length second.length - front
  let back := min most (commonCount first.reverse second.reverse)
  let front := front - s.horizon
  let back := back - s.horizon
  let middle (lines : List (String × Bool)) : List (String × Bool) :=
    ((lines.drop front).take (lines.length - front - back)).map fun (line, ended) =>
      (s.keyOf line, ended || s.endless)
  let step (state : Std.HashMap (String × Bool) Nat × Array Nat) (k : String × Bool) :
      Std.HashMap (String × Bool) Nat × Array Nat :=
    match state.1.get? k with
    | some n => (state.1, state.2.push n)
    | none => (state.1.insert k state.1.size, state.2.push state.1.size)
  let (known, kinds) := (middle first).foldl step ({}, #[])
  let (_, kindsThere) := (middle second).foldl step (known, #[])
  (changesBetween s.minimal kinds kindsThere).map fun c =>
    { c with first := c.first + front, second := c.second + front }

/-- Changes as a text. -/
def changesText (s : Settings) (a b : Side) (changes : List Change) : String :=
  let (a, b) := (s.shownSide a, s.shownSide b)
  let skipped (c : Change) : Bool := c.isSkipped s a b
  let counting := changes.filter fun c => !skipped c
  let grouped := (groups s skipped changes).filter fun group => !group.all skipped
  match s.style.getD .normal with
  | .normal => String.join (counting.map fun c => c.normal s a b)
  | .context =>
      "*** " ++ a.heading ++ "\n--- " ++ b.heading ++ "\n" ++
        String.join (grouped.map (contextText s a b))
  | .unified =>
      "--- " ++ a.heading ++ "\n+++ " ++ b.heading ++ "\n" ++
        String.join (grouped.map (unifiedText s a b))
  | .script => String.join (counting.reverse.map fun c => c.script b)
  | .forward => String.join (counting.map fun c => c.forward b)
  | .counted => String.join (counting.map fun c => c.counted b)
  | .columns => columnsText s s.layout a b 0 0 changes
  | .merged name => mergedText name a b 0 changes

end WasmBinary.Machine.Script.Tool.Differing
