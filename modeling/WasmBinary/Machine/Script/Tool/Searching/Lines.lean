/-
  Searching a text.

  1. **Patterns** become expressions.  All that is wrong with any of them is told.

  2. **Matches** — of all patterns the leftmost match counts, and of those that start at the same
     place the longest.  A match may have to be a whole line, or to consist of whole words.

  3. **Lines** are looked at one after the other.  Those that are selected are written; those around
     them may be written as well, with a mark between groups of lines that do not touch.

  4. **Binary texts** have a zero among their characters, which then ends a line.  From there on
     lines are not written, and it is only told that one of them was selected.

  5. **Heads** — in front of a line may stand the name of its file, its number, and its offset.
-/
import WasmBinary.Machine.Script.Regex.Matching
import WasmBinary.Machine.Script.Regex.Reading
import WasmBinary.Machine.Script.Regex.Remarks
import WasmBinary.Machine.Script.Regex.Rich
import WasmBinary.Machine.Script.Tool.Searching.Settings

namespace WasmBinary.Machine.Script.Tool.Searching

/-! ## Patterns -/

/-- The notation of a pattern, where the end of a line may be a character like any other. -/
def dialectOf (kind : PatternKind) (solid : Bool) : Regex.Dialect :=
  { (if kind = .extended then Regex.Dialect.lenient else .loose) with negatedLineEnd := solid }

/-- The expression that a pattern is, or what is wrong with it. -/
def expressionOf (kind : PatternKind) (solid : Bool) (pattern : String) : Except String Regex :=
  match kind with
  | .fixed => .ok (Regex.ofText pattern)
  | .rich => (Regex.Rich.parse pattern).map Prod.fst
  | _ => (Regex.parse (dialectOf kind solid) pattern).map Prod.fst

/-- What is remarked about a pattern. -/
def remarksOf (kind : PatternKind) (pattern : String) : Regex.Remarks :=
  match kind with
  | .fixed | .rich => {}
  | kind => Regex.remarks (dialectOf kind false) pattern

/-! ## Matches -/

/-- What is searched for. -/
structure Finder where
  expressions : List Regex
  caseless : Bool
  words : Bool
  wholeLines : Bool
  longest : Bool

namespace Finder

/-- What is searched for in a line. -/
structure Search where
  finder : Finder
  line : Regex.Line
  searchers : List Regex.Searcher
  /-- The places where a match may end. -/
  wanted : Nat

/-- Makes everything ready for a line. -/
def of (f : Finder) (text : String) : Search :=
  let line : Regex.Line := { text := text.toList.toArray, caseless := f.caseless }
  { finder := f, line
    searchers := f.expressions.map fun r => Regex.Searcher.of line r f.longest
    wanted := if f.words then Regex.placesWhere line fun i => !line.isWord i
      else Regex.allPlaces line }

/-- The match that counts of those that start at a place. -/
def Search.at? (s : Search) (start : Nat) : Option Regex.Match :=
  let found := s.searchers.filterMap fun searcher => searcher.at? start s.wanted
  found.foldl (fun best m =>
    match best with
    | some (b : Regex.Match) => if b.last < m.last then some m else best
    | none => some m) none

/-- The leftmost match that starts at a place or behind it; the first number bounds where. -/
def Search.nextFrom (s : Search) : Nat → Nat → Option Regex.Match
  | 0, _ => none
  | n + 1, i =>
      let possible := s.searchers.any fun searcher => searcher.starts.testBit i
      let inWord := s.finder.words && 0 < i && s.line.isWord (i - 1)
      if possible && !inWord then (s.at? i).orElse fun _ => s.nextFrom n (i + 1)
      else s.nextFrom n (i + 1)

/-- The match that counts of those that start at a place or behind it. -/
def Search.next? (s : Search) (start : Nat) : Option Regex.Match :=
  if s.finder.wholeLines then
    if start = 0 then s.searchers.findSome? Regex.Searcher.whole? else none
  else s.nextFrom (s.line.text.size + 1 - start) start

/-- Whether there is a match in a line. -/
def holds (f : Finder) (text : String) : Bool :=
  let s := f.of text
  if f.words || f.wholeLines then (s.next? 0).isSome
  else s.searchers.any Regex.Searcher.found

/-- The places of all matches in a line that are not empty, from a place on. -/
def Search.parts (s : Search) : Nat → Nat → List (Nat × Nat)
  | 0, _ => []
  | n + 1, start =>
      match s.next? start with
      | none => []
      | some m =>
          if s.line.text.size ≤ m.first then []
          else if m.last ≤ m.first then s.parts n (m.first + 1)
          else (m.first, m.last) :: s.parts n m.last

end Finder

/-! ## Lines -/

/-- A line of a text. -/
structure Piece where
  text : String
  number : Nat
  offset : Nat

/-- How one file is shown. -/
structure Show where
  settings : Settings
  palette : Palette
  finder : Finder
  label : String
  named : Bool
  /-- How wide numbers are if they are aligned. -/
  width : Nat := 0

/-- What has come of a text so far. -/
structure Progress where
  /-- What is written, the latest first. -/
  output : List String := []
  /-- The lines since the last one that was written, the latest first, as many as may be written
      later on. -/
  recent : List Piece := []
  /-- How many lines there are since the last one that was written. -/
  gap : Nat := 0
  /-- Whether a line of this text was written. -/
  written : Bool := false
  /-- Whether a group of lines was written, be it of another text. -/
  grouped : Bool := false
  /-- How many lines may still be written behind a selected one. -/
  pending : Nat := 0
  selected : Nat := 0
  /-- Where the last selected line ends. -/
  reached : Nat := 0
  /-- Whether a line was selected that is not written as the text is binary. -/
  hidden : Bool := false
  finished : Bool := false

namespace Show

/-- A text in a color, if colors are wanted. -/
def paint (v : Show) (color : Palette → String) (text : String) : String :=
  if v.settings.colored then v.palette.paint (color v.palette) text else text

/-- The name of the file, if it is to be told, with what separates it. -/
def nameHead (v : Show) (mark : String) : String :=
  if !v.named then ""
  else v.paint Palette.name v.label ++
    if v.settings.zeroNames then "\x00" else v.paint Palette.mark mark

/-- What stands in front of a line, or of a part of it. -/
def head (v : Show) (mark : String) (piece : Piece) (shift : Nat) (length : Nat) : String :=
  let s := v.settings
  let number (color : Palette → String) (n : Nat) : String :=
    v.paint color (if s.aligned then padded v.width n else toString n) ++ v.paint Palette.mark mark
  let tab := s.aligned && (v.named || s.numbers || s.offsets) && length ≠ 0
  v.nameHead mark ++ (if s.numbers then number Palette.number piece.number else "") ++
    (if s.offsets then number Palette.offset (piece.offset + shift) else "") ++
    (if tab then "\t" else "")

/-- The parts of a line that match, each in its color, with what is between them. -/
def colored (v : Show) (chosen : Bool) (text : String) : String :=
  let s := v.settings
  let swapped := v.palette.swaps && s.inverted
  let lineColor := if chosen != swapped then v.palette.line else v.palette.contextLine
  let matchColor := if chosen then v.palette.selected else v.palette.around
  let cs := text.toList.toArray
  let slice (i j : Nat) : String := String.ofList (cs.extract i j).toList
  let parts := if chosen != s.inverted then (v.finder.of text).parts (cs.size + 1) 0 else []
  let (written, last) := parts.foldl (fun (written, last) (i, j) =>
    (written ++ v.palette.paintOpen lineColor (slice last i) ++
      v.palette.paint matchColor (slice i j), j)) ("", 0)
  let limit := if cs.back? = some '\x0d' then max last (cs.size - 1) else cs.size
  let rest := slice last limit
  written ++ (if rest = "" then "" else v.palette.paint lineColor rest) ++ slice limit cs.size

/-- The parts of a line that match, each as a line. -/
def partLines (v : Show) (chosen : Bool) (piece : Piece) : String :=
  let s := v.settings
  let cs := piece.text.toList.toArray
  let mark := if s.inverted then "-" else ":"
  String.join (((v.finder.of piece.text).parts (cs.size + 1) 0).map fun (i, j) =>
    let part := String.ofList (cs.extract i j).toList
    let color := if chosen then Palette.selected else Palette.around
    (v.head mark piece i (j - i) ++ v.paint color part).push s.ending)

/-- What is written of a line that is selected, or of one around it. -/
def line (v : Show) (chosen : Bool) (piece : Piece) : String :=
  let s := v.settings
  if s.onlyMatches then
    if chosen == s.inverted then "" else v.partLines chosen piece
  else
    let body := if s.colored then v.colored chosen piece.text else piece.text
    (v.head (if chosen then ":" else "-") piece 0 piece.text.length ++ body).push s.ending

/-- Writes a line around a selected one. -/
def around (v : Show) (p : Progress) (piece : Piece) : Progress :=
  { p with
    output := v.line false piece :: p.output
    recent := []
    gap := 0
    written := true }

/-- Writes a selected line, and those in front of it that are to be written. -/
def chosen (v : Show) (p : Progress) (piece : Piece) : Progress :=
  let s := v.settings
  let count := s.linesBefore.getD 0
  let grouping := s.linesBefore.isSome || s.linesAfter.isSome
  let touches := p.written && p.gap ≤ count
  let mark := match s.groupMark with
    | some text => if grouping && p.grouped && !touches then
        v.paint Palette.mark text ++ "\n" else ""
    | none => ""
  let front := (p.recent.take count).reverse.foldl v.around { p with output := mark :: p.output }
  { front with
    output := v.line true piece :: front.output
    recent := []
    gap := 0
    written := true
    grouped := true
    pending := s.linesAfter.getD 0 }

/-- Looks at the next line, which may belong to a binary part of the text. -/
def next (v : Show) (p : Progress) (binary : Bool) (piece : Piece) : Progress :=
  let s := v.settings
  let quiet := s.hidesLines || binary
  if p.finished then p
  else if s.most.any (· ≤ p.selected) then
    if p.pending = 0 || quiet then { p with finished := true }
    else { v.around p piece with pending := p.pending - 1 }
  else if v.finder.holds piece.text != s.inverted then
    let counted := { p with
      selected := p.selected + 1
      reached := piece.offset + piece.text.length + 1 }
    if quiet then
      { counted with
        hidden := p.hidden || (binary && !s.hidesLines)
        finished := s.stopsAtFirst || (binary && !s.counts) }
    else v.chosen counted piece
  else if quiet then p
  else if p.pending ≠ 0 then { v.around p piece with pending := p.pending - 1 }
  else
    let kept := s.linesBefore.getD 0
    { p with recent := (piece :: p.recent).take kept, gap := p.gap + 1 }

end Show

/-- How much of a file is looked at at once. -/
def chunkSize : Nat := 98304

/-- The lines of a text, from a number and an offset on. -/
def piecesFrom (ending : Char) (number offset : Nat) (text : String) : List Piece :=
  let step (state : Nat × Nat × List Piece) (line : String) : Nat × Nat × List Piece :=
    let (number, offset, pieces) := state
    (number + 1, offset + line.length + 1, { text := line, number, offset } :: pieces)
  ((recordsOf ending text).foldl step (number, offset, [])).2.2.reverse

/-- The part of a text in front of the first zero that is looked at before the zero is seen: it ends
    with a line. -/
def textPart (text : List Char) : Nat :=
  let seen := (text.takeWhile (· ≠ '\x00')).length
  let front := (text.take (seen / chunkSize * chunkSize)).reverse
  front.length - (front.takeWhile (· ≠ '\n')).length

/-- Searches a text. -/
def Show.search (v : Show) (grouped : Bool) (text : String) : Progress :=
  let s := v.settings
  let initial : Progress := { grouped }
  let binary := s.binary ≠ .asText && s.ending = '\n' && text.toList.contains '\x00'
  if !binary then
    (piecesFrom s.ending 1 0 text).foldl (fun p piece => v.next p false piece) initial
  else if s.binary = .unmatched then initial
  else
    let cs := text.toList
    let size := textPart cs
    let plain := piecesFrom '\n' 1 0 (String.ofList (cs.take size))
    let rest := String.ofList ((cs.drop size).map fun c => if c = '\x00' then '\n' else c)
    let p := plain.foldl (fun p piece => v.next p false piece) initial
    (piecesFrom '\n' (plain.length + 1) size rest).foldl (fun p piece => v.next p true piece) p

end WasmBinary.Machine.Script.Tool.Searching
