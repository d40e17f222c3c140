/-
  The tool that fills paragraphs.

  1. **Paragraphs** are runs of lines with the same indentation.  Their words are known by how they
     begin and end, and by the blanks behind them.

  2. **Costs** — a line should be about as long as the goal, and as long as the next one.  Breaks
     should stand behind sentences and punctuation, and not leave single words alone.

  3. **Breaks** are chosen, from the last word on, so that the costs are least.
-/
import WasmBinary.Machine.Script.Tool.Basic

namespace WasmBinary.Machine.Script.Tool

open Run

namespace Paragraphs

/-- Which lines make a paragraph. -/
inductive Manner
  | plain
  /-- The first two lines tell the indentation of the first line and of all others. -/
  | crown
  /-- The same, but they have to differ. -/
  | tagged
  /-- Every line is a paragraph. -/
  | split
deriving DecidableEq, Repr

/-- How paragraphs are filled. -/
structure Settings where
  manner : Manner := .plain
  uniform : Bool := false
  /-- What lines have to begin with. -/
  lead : String := ""
  widthText : Option String := none
  goalText : Option String := none
  width : Nat := 75
  goal : Nat := 70

/-- How many blanks stand in front of what lines have to begin with. -/
def Settings.leadIndent (s : Settings) : Nat := (s.lead.toList.takeWhile (· = ' ')).length

/-- What lines have to begin with, without the blanks in front. -/
def Settings.fullLead (s : Settings) : List Char := s.lead.toList.dropWhile (· = ' ')

/-- The same, without the blanks behind it. -/
def Settings.bareLead (s : Settings) : List Char :=
  (s.fullLead.reverse.dropWhile (· = ' ')).reverse

/-! ## Words -/

/-- A word, and how many blanks are behind it. -/
structure Word where
  text : List Char
  space : Nat := 1
  /-- Whether it begins with something that opens. -/
  opens : Bool := false
  /-- Whether it ends with a full stop or the like, and with any punctuation. -/
  stops : Bool := false
  punctuated : Bool := false
  /-- Whether a sentence ends with it. -/
  ends : Bool := false
deriving Inhabited

/-- Whether a character ends a word. -/
def isSpace (c : Char) : Bool := c = ' ' || (9 ≤ c.toNat && c.toNat ≤ 13)

/-- The width of blanks in front, and what is behind them; and whether there was a tab. -/
def blanks : (column : Nat) → (tab : Bool) → List Char → Nat × Bool × List Char
  | column, tab, ' ' :: rest => blanks (column + 1) tab rest
  | column, _, '\t' :: rest => blanks ((column / 8 + 1) * 8) true rest
  | column, tab, rest => (column, tab, rest)

/-- Whether a character is punctuation. -/
def isPunctuation (c : Char) : Bool := 33 ≤ c.toNat && c.toNat < 127 && !c.isAlphanum

/-- A word of some characters. -/
def Word.of (text : List Char) (space : Nat) (last uniform : Bool) : Word :=
  let closed := text.reverse
  let inner := closed.dropWhile fun c => ")]'\"".toList.contains c
  let final := (if inner.isEmpty then closed.getLast? else inner.head?).getD ' '
  let stops := ".?!".toList.contains final
  let ends := stops && (last || 1 < space)
  { text, stops, ends
    space := if last || uniform then (if ends then 2 else 1) else space
    opens := text.head?.any fun c => "(['\x60\"".toList.contains c
    punctuated := closed.head?.any isPunctuation }

/-- The words of a line from a column on, and whether there was a tab between them. -/
def wordsFrom (uniform : Bool) : Nat → (column : Nat) → List Char → List Word × Bool
  | 0, _, _ => ([], false)
  | _, _, [] => ([], false)
  | n + 1, column, c :: rest =>
      let text := c :: rest.takeWhile fun c => !isSpace c
      let column := column + text.length
      let (next, tab, behind) := blanks column false (rest.drop (text.length - 1))
      let (others, tabs) := wordsFrom uniform n next behind
      (Word.of text (next - column) behind.isEmpty uniform :: others, tab || tabs)

/-! ## Lines -/

/-- A line: how far what it has to begin with is indented, the column of its first word, and what
    it has from there on. -/
structure Line where
  indent : Nat
  column : Nat
  rest : List Char
  /-- Whether there are tabs in front. -/
  tab : Bool

/-- A line as it was read. -/
def Line.of (s : Settings) (text : String) : Line :=
  let (column, tab, rest) := blanks 0 false text.toList
  if s.bareLead.isEmpty then { indent := min s.leadIndent column, column, rest, tab }
  else
    let same := (s.bareLead.zip rest).takeWhile fun (a, b) => a = b
    let after := column + same.length
    let behind := rest.drop same.length
    if same.length < s.bareLead.length then
      { indent := column, column := after, rest := behind, tab }
    else
      let (next, more, behind) := blanks after tab behind
      { indent := column, column := next, rest := behind, tab := more }

/-- Whether a line belongs to no paragraph. -/
def Line.isApart (l : Line) (s : Settings) : Bool :=
  l.rest.isEmpty || l.indent < s.leadIndent || l.column < l.indent + s.fullLead.length

/-! ## Output -/

/-- Blanks from a column on, with tabs where these are in use: the text, and the column behind. -/
def spaces (tabs : Bool) (column count : Nat) : List Char × Nat :=
  let target := column + count
  let stop := target / 8 * 8
  if tabs && column + 1 < stop then
    let count := (stop - column / 8 * 8) / 8
    (List.replicate count '\t' ++ List.replicate (target - stop) ' ', target)
  else (List.replicate count ' ', target)

/-- A line that belongs to no paragraph. -/
def Line.copied (l : Line) (s : Settings) (tabs : Bool) : List Char :=
  if l.indent < l.column || !l.rest.isEmpty then
    let (front, column) := spaces tabs 0 l.indent
    let lead := s.bareLead.take (l.column - column)
    let (gap, _) := if l.rest.isEmpty then ([], 0)
      else spaces tabs (column + lead.length) (l.column - column - lead.length)
    front ++ lead ++ gap ++ l.rest
  else []

/-! ## Costs -/

/-- The cost of being off by so much. -/
def square (n : Int) : Int := n * n

/-- The cost of a line that is shorter than the goal. -/
def shortCost (n : Int) : Int := square (10 * n)

/-- The cost of lines that differ in length. -/
def raggedCost (n : Int) : Int := shortCost n / 2

/-- The cost of a break in front of a word. -/
def baseCost (words : Array Word) (i : Nat) : Int :=
  let here := words.getD i default
  let cost := square 70
  let cost :=
    if i = 0 then cost
    else
      let before := words.getD (i - 1) default
      if before.stops then if before.ends then cost - square 50 else cost + square 600
      else if before.punctuated then cost - square 40
      else if 1 < i && (words.getD (i - 2) default).ends then
        cost + square 200 / ((before.text.length : Int) + 2)
      else cost
  if here.opens then cost - square 40
  else if here.ends then cost + square 150 / ((here.text.length : Int) + 2)
  else cost

/-- The best way to go on from a word: where the next line starts, how long this one is, and the
    cost. -/
structure Break where
  next : Nat := 0
  length : Nat := 0
  cost : Int := 0
deriving Inhabited

/-- Tries the places where a line can end that has its words up to one place, and a length. -/
def tryBreaks (s : Settings) (words : Array Word) (breaks : Array Break) :
    Nat → (next length : Nat) → Option Break → Option Break
  | 0, _, _, best => best
  | n + 1, next, length, best =>
      let behind := breaks.getD next default
      let cost : Int :=
        if words.size ≤ next then 0
        else
          shortCost ((s.goal : Int) - length) +
            (if behind.next = words.size then 0
              else raggedCost ((length : Int) - behind.length))
      let cost := cost + behind.cost
      let best := match best with
        | some b => if cost < b.cost then some { next, length, cost } else best
        | none => some { next, length, cost }
      if words.size ≤ next then best
      else
        let length := length + (words.getD (next - 1) default).space +
          (words.getD next default).text.length
        if length < s.width then tryBreaks s words breaks n (next + 1) length best
        else best

/-- The best ways to go on from all words, from the last one to the first. -/
def breaksOf (s : Settings) (words : Array Word) (first other : Nat) : Array Break :=
  (List.range words.size).reverse.foldl (fun breaks i =>
    let indent := if i = 0 then first else other
    let length := indent + (words.getD i default).text.length
    let best := (tryBreaks s words breaks (words.size + 1) (i + 1) length none).getD default
    breaks.setIfInBounds i { best with cost := best.cost + baseCost words i })
    (Array.replicate (words.size + 1) {})

/-- The words of a line, from a column on. -/
def wordsText (tabs : Bool) : (column : Nat) → List Word → List Char
  | _, [] => []
  | _, [w] => w.text
  | column, w :: rest =>
      let (blank, next) := spaces tabs (column + w.text.length) w.space
      w.text ++ blank ++ wordsText tabs next rest

/-- A line of some words. -/
def lineText (s : Settings) (tabs : Bool) (leadIndent indent : Nat) (words : List Word) :
    List Char :=
  let (front, column) := spaces tabs 0 leadIndent
  let lead := s.bareLead
  let column := column + lead.length
  let (gap, column) := spaces tabs column (indent - column)
  front ++ lead ++ gap ++ wordsText tabs column words

/-- The lines of a paragraph, from a word on. -/
def paragraphLines (s : Settings) (tabs : Bool) (leadIndent other : Nat) (words : Array Word)
    (breaks : Array Break) : Nat → (start indent : Nat) → List (List Char)
  | 0, _, _ => []
  | n + 1, start, indent =>
      let next := max (start + 1) (breaks.getD start default).next
      let text := lineText s tabs leadIndent indent (words.extract start next).toList
      if words.size ≤ next then [text]
      else text :: paragraphLines s tabs leadIndent other words breaks n next other

/-! ## Paragraphs -/

/-- What is known from the lines before. -/
structure State where
  tabs : Bool := false
  /-- The indentation of the other lines of the last paragraph. -/
  other : Nat := 0

/-- The indentation of the other lines of a paragraph, by its first line and by the next one. -/
def otherIndent (s : Settings) (before : Nat) (first : Line) (next : Option Line) : Nat :=
  match s.manner, next with
  | .crown, some l => l.column
  | .tagged, next =>
      match next.filter fun l => l.column ≠ first.column with
      | some l => l.column
      | none =>
          if before = first.column then (if first.column = 0 then 3 else 0) else before
  | _, _ => first.column

/-- The lines of a paragraph behind its first one. -/
def linesBehind (s : Settings) (first : Line) (other : Nat) (rest : List Line) : List Line :=
  let same (l : Line) : Bool := l.indent = first.indent && !l.isApart s
  let more := rest.takeWhile fun l => same l && l.column = other
  match s.manner, rest with
  | .split, _ => []
  | .plain, _ => more
  | .crown, next :: _ => if same next then more else []
  | .tagged, next :: _ => if same next && next.column ≠ first.column then more else []
  | _, [] => []

/-- The text of lines when their paragraphs are filled. -/
def filledText (s : Settings) : Nat → State → List Line → List Char
  | 0, _, _ => []
  | _, _, [] => []
  | n + 1, state, l :: rest =>
      let tabs := state.tabs || l.tab
      if l.isApart s then
        l.copied s tabs ++ '\n' :: filledText s n { state with tabs } rest
      else
        let next := rest.head?.filter fun next => next.indent = l.indent && !next.isApart s
        let other := otherIndent s state.other l next
        let more := linesBehind s l other rest
        let read := (l :: more).map fun l => wordsFrom s.uniform (l.rest.length + 1) l.column l.rest
        let words := (read.flatMap Prod.fst).toArray
        let words := words.modify (words.size - 1) fun w => { w with stops := true, ends := true }
        let seen := (rest.take (more.length + 1)).any Line.tab
        let tabs := tabs || seen || read.any Prod.snd
        let breaks := breaksOf s words l.column other
        let lines := paragraphLines s tabs l.indent other words breaks (words.size + 1) 0
          l.column
        (lines.flatMap fun line => line ++ ['\n']) ++
          filledText s n { tabs, other } (rest.drop more.length)

/-- A text whose paragraphs are filled. -/
def Settings.fill (s : Settings) (text : String) : String :=
  let lines := (recordsOf '\n' text).map (Line.of s)
  String.ofList (filledText s (lines.length + 1) {} lines)

/-! ## Options -/

/-- Takes an option into account. -/
def Settings.add (s : Settings) (option : Given) : Except Misuse Settings :=
  match option.key with
  | "c" => .ok { s with manner := .crown }
  | "t" => .ok { s with manner := .tagged }
  | "s" => .ok { s with manner := .split }
  | "u" => .ok { s with uniform := true }
  | "p" => .ok { s with lead := option.value }
  | "w" => .ok { s with widthText := some option.value }
  | "g" => .ok { s with goalText := some option.value }
  | digit =>
      .error (.hinted ("invalid option -- " ++ digit ++
        "; -WIDTH is recognized only when it is the first\noption; use -w N instead"))

/-- The settings when all options are known. -/
def Settings.complete (s : Settings) : Except Misuse Settings := do
  let widthOf (text : String) (most : Nat) : Except Misuse Nat :=
    amountOr "invalid width" "" text 0 most
  let width ← match s.widthText with
    | some text => widthOf text 2500
    | none => pure 75
  match s.goalText with
  | some text =>
      let goal ← widthOf text width
      return { s with goal, width := if s.widthText.isSome then width else goal + 10 }
  | none => return { s with width, goal := width * 187 / 200 }

end Paragraphs

/-- Fills paragraphs. -/
def fillParagraphs : Tool := fun self arguments => do
  let first := arguments.headD ""
  let given := match first.toList with
    | '-' :: c :: rest => if c.isDigit then some (String.ofList (c :: rest)) else none
    | _ => none
  let initial : Paragraphs.Settings := { widthText := given }
  let digits := " ".intercalate ((List.range 10).map toString)
  withSettings ("c,crown-margin s,split-only t,tagged-paragraph u,uniform-spacing p,prefix= " ++
      "w,width= g,goal= " ++ digits) initial Paragraphs.Settings.add self
    (if given.isSome then arguments.drop 1 else arguments) fun s operands => do
      match s.complete with
      | .error m => m.report self 1
      | .ok s =>
          forEach (orInput operands) fun path => do
            match ← openOperand path with
            | .error fault =>
                say self ("cannot open " ++ quoted path ++ " for reading: " ++ fault.words)
                return false
            | .ok number =>
                match ← readOpened number .flow with
                | .ok data =>
                    emit (s.fill (ByteText.ofBytes data))
                    return true
                | .error _ =>
                    say self "read error"
                    return false

end WasmBinary.Machine.Script.Tool
