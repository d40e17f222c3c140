/-
  Laying out pages.

  1. **A sheet** is what is written so far, and where on it the next character goes.  Blanks are
     kept back until something follows them, since they may become tabs.

  2. **Columns** take lines from their sources.  A line that is too long is cut.  A form feed ends a
     page for the columns that read from its source.

  3. **A page** is written line by line, each of them from one column after the other.  Where the
     columns are filled one after the other, the page is stored first and its lines are spread over
     all columns.
-/
import WasmBinary.Machine.Script.Tool.Pages.Plan

namespace WasmBinary.Machine.Script.Tool.Pages

/-- How far a column has come. -/
inductive Stand
  | reading
  /-- A form feed was found while the page was stored. -/
  | fed
  /-- There is nothing more for this page. -/
  | held
  | ended
deriving DecidableEq, Repr

/-- A column, with the source of its lines. -/
structure Column where
  source : Nat
  stand : Stand := .reading
  numbered : Bool := false
  start : Nat := 0
  stored : Nat := 0
  /-- How many lines there are to be printed. -/
  left : Int := 0
  /-- The first stored line that is not printed. -/
  next : Nat := 0
  wasFull : Bool := false
deriving Inhabited

/-- What is written so far, and what is left to be done. -/
structure Sheet where
  sources : Array (List Char)
  columns : Array Column
  /-- How many sources have more for this page. -/
  ready : Nat
  written : String := ""
  column : Int := 0
  inputColumn : Nat := 0
  blanks : Int := 0
  separators : Nat := 0
  padding : Nat := 0
  pads : Bool := false
  aligns : Bool := false
  lineIsEmpty : Bool := true
  onlyFeed : Bool := false
  owesHead : Bool := false
  owesFeed : Bool := false
  number : Int := 1
  page : Nat := 1
  store : Array Char := #[]
  starts : Array Nat := #[]
  ends : Array Nat := #[]
  head : String × String := ("", "")

/-- Changes a sheet. -/
abbrev Drawing := StateM Sheet

/-- Writes a character as it is. -/
def put (c : Char) : Drawing Unit := modify fun s => { s with written := s.written.push c }

/-- Tabs and blanks from a column up to another one; the first number bounds how many tabs. -/
def gap (tabs : Tabs) : Nat → Int → Int → List Char
  | 0, column, goal => List.replicate (goal - column).toNat ' '
  | n + 1, column, goal =>
      let after := column + tabs.reach column
      if 1 < goal - column && after ≤ goal then tabs.sign :: gap tabs n after goal
      else List.replicate (goal - column).toNat ' '

/-- Writes the blanks that were kept back. -/
def putBlanks (p : Plan) : Drawing Unit := modify fun s =>
  let goal := s.column + s.blanks
  { s with
    written := (gap p.outputTabs s.blanks.toNat s.column goal).foldl String.push s.written
    column := goal
    blanks := 0 }

/-- Writes a character of a line. -/
def print (p : Plan) (c : Char) : Drawing Unit := do
  if p.tabs then
    if c = ' ' then
      modify fun s => { s with blanks := s.blanks + 1 }
      return
    if 0 < (← get).blanks then putBlanks p
    let step : Int := if isPrintable c then 1 else if c = '\x08' then -1 else 0
    modify fun s => { s with column := s.column + step }
  put c

/-- Puts a character where the lines of columns go. -/
def give (p : Plan) (c : Char) : Drawing Unit :=
  if p.stores then modify fun s => { s with store := s.store.push c } else print p c

/-- Goes on to a column of the sheet. -/
def padTo (p : Plan) (goal : Nat) : Drawing Unit := modify fun s =>
  if p.tabs then { s with blanks := goal - s.column }
  else
    { s with
      written := s.written.pushn ' ' (goal - s.column).toNat
      column := goal }

/-- Writes what separates columns.  It is written once, however many separators are due. -/
def separate (p : Plan) : Drawing Unit := do
  if (← get).separators = 0 then
    if 0 < (← get).blanks then putBlanks p
  else
    for c in p.between do
      if c = ' ' then modify fun s => { s with blanks := s.blanks + 1 }
      else
        if 0 < (← get).blanks then putBlanks p
        put c
        modify fun s => { s with column := s.column + 1 }
    if 0 < (← get).blanks then putBlanks p
    modify fun s => { s with separators := 0 }

/-- Goes to where a column starts. -/
def approach (p : Plan) : Drawing Unit := do
  let padding := (← get).padding
  if p.between.length < padding then
    padTo p (padding - p.between.length)
    modify fun s => { s with padding := 0 }
  if p.separates then separate p

/-- Writes the number of a line. -/
def giveNumber (p : Plan) : Drawing Unit := do
  let digits := (toString (← get).number).toList
  let text := digits.leftpad p.numberDigits ' '
  (text.drop (text.length - p.numberDigits)).forM (give p)
  if 1 < p.count && p.numberEnd = '\t' then
    (List.replicate (p.numberWidth - p.numberDigits) ' ').forM (give p)
  else give p p.numberEnd
  modify fun s => { s with
    number := s.number + 1
    column := if p.count ≤ 1 && p.numberEnd = '\t' then s.column + p.outputTabs.reach s.column
      else s.column
    inputColumn := if p.cuts && !p.merges then s.inputColumn + p.numberWidth else s.inputColumn }

/-- Goes to where an empty column would be. -/
def passColumn (p : Plan) (i : Nat) : Drawing Unit := do
  let c := (← get).columns.getD i default
  modify fun s => { s with padding := c.start }
  approach p
  if c.numbered then giveNumber p

/-- Writes the head of a page. -/
def putHead (p : Plan) : Drawing Unit := do
  modify fun s => { s with column := 0 }
  padTo p p.margin
  putBlanks p
  modify fun s =>
    let (date, name) := s.head
    let page := "Page " ++ toString s.page
    let room := p.width - (date.length + name.length) - page.length
    let side (n : Nat) : String := "".pushn ' ' (max 1 n)
    { s with
      written := s.written ++ "\n\n" ++ "".pushn ' ' p.margin ++ date ++ side (room / 2) ++ name ++
        side (room - room / 2) ++ page ++ "\n\n\n"
      owesHead := false
      column := 0 }

/-- Changes all columns. -/
def changeAll (f : Column → Column) : Drawing Unit :=
  modify fun s => { s with columns := s.columns.map f }

/-- Changes one column. -/
def change (i : Nat) (f : Column → Column) : Drawing Unit :=
  modify fun s => { s with columns := s.columns.modify i f }

/-- Ends the page for what reads from the source of a column. -/
def hold (p : Plan) (i : Nat) : Drawing Unit := do
  if p.merges then change i fun c => { c with stand := .held }
  else changeAll fun c => { c with stand := if p.stores then .fed else .held }
  change i fun c => { c with left := 0 }
  modify fun s => { s with ready := s.ready - 1 }

/-- Closes the source of a column. -/
def close (p : Plan) (i : Nat) : Drawing Unit := do
  if ((← get).columns.getD i default).stand ≠ .ended then
    if p.merges then change i fun c => { c with stand := .ended, left := 0 }
    else
      changeAll fun c => { c with
        stand := .ended, left := if c.stored = 0 then 0 else c.left }
    modify fun s => { s with ready := s.ready - 1 }

/-- What follows an end of line, if there is one. -/
def behindEnd : List Char → List Char
  | '\n' :: rest => rest
  | cs => cs

/-- Puts back what is left of the source of a column. -/
def leave (i : Nat) (rest : List Char) : Drawing Unit := modify fun s =>
  { s with sources := s.sources.set! (s.columns.getD i default).source rest }

/-- What is left of the source of a column. -/
def rest (i : Nat) : Drawing (List Char) :=
  return (← get).sources.getD ((← get).columns.getD i default).source []

/-- The characters that stand for a character of the input, and how far they reach. -/
def clump (p : Plan) (c : Char) : Drawing (List Char) := do
  let column := (← get).inputColumn
  let octal : List Char :=
    '\\' :: (Nat.toDigits 8 c.toNat).leftpad 3 '0'
  let (chars, width) : List Char × Int :=
    if c = p.inputTabs.sign || c = '\t' then
      let width := if c = p.inputTabs.sign then p.inputTabs.width else 8
      let reach := (({ width } : Tabs).reach column)
      (if p.untabs then List.replicate reach.toNat ' ' else [c], reach)
    else if isPrintable c then ([c], 1)
    else if p.escapes then (octal, 4)
    else if p.carets then
      if c.toNat < 128 then (['^', Char.ofNat (c.toNat ^^^ 64)], 2) else (octal, 4)
    else if c = '\x08' then ([c], -1)
    else ([c], 0)
  modify fun s => { s with inputColumn := (s.inputColumn + width).toNat }
  return if width < 0 && column = 0 then [] else chars

/-- Ends a line, and the page, at a form feed. -/
def feedAt (p : Plan) (i : Nat) (behind : List Char) : Drawing Unit := do
  leave i (behindEnd behind)
  if p.keepsFeeds then modify fun s => { s with owesFeed := true }
  hold p i

/-- Reads the rest of a line, and tells whether it fits into its column. -/
def goOn (p : Plan) (i : Nat) : List Char → Drawing Bool
  | [] => do
      leave i []
      close p i
      return true
  | '\n' :: behind => do
      leave i behind
      return true
  | '\x0c' :: behind => do
      feedAt p i behind
      return true
  | c :: behind => do
      let before := (← get).inputColumn
      let chars ← clump p c
      if p.cuts && p.columnWidth < (← get).inputColumn then
        modify fun s => { s with inputColumn := before }
        leave i behind
        return false
      chars.forM (give p)
      goOn p i behind

/-- Leaves out the rest of a line. -/
def leaveOut (p : Plan) (i : Nat) : List Char → Drawing Unit
  | [] => do
      leave i []
      close p i
  | '\n' :: behind => leave i behind
  | '\x0c' :: behind => feedAt p i behind
  | _ :: behind => leaveOut p i behind

/-- What is left of a source behind a form feed that comes with the end of a page. -/
def pastFeed (full : Bool) (cs : List Char) : List Char :=
  match full, cs with
  | true, '\x0c' :: '\n' :: rest => rest
  | true, '\x0c' :: rest => rest
  | _, cs => cs

/-- Begins a line of a column: the head of the page if it is due, and what is in front. -/
def beginLine (p : Plan) (i : Nat) : Drawing Unit := do
  unless p.stores do
    modify fun s => { s with pads := true }
    if (← get).owesHead then putHead p
    if p.merges && (← get).aligns then
      let due := (← get).separators
      modify fun s => { s with separators := 0 }
      for j in List.range due do
        passColumn p j
        modify fun s => { s with separators := s.separators + 1 }
      modify fun s => { s with
        padding := (s.columns.getD i default).start
        blanks := if p.cuts then p.columnWidth else 0
        aligns := false }
    approach p
  if ((← get).columns.getD i default).numbered then giveNumber p
  modify fun s => { s with lineIsEmpty := false }

/-- Reads a line for a column, and tells whether it fits into it. -/
def readLine (p : Plan) (i : Nat) : Drawing Bool := do
  let cs := pastFeed ((← get).columns.getD i default).wasFull (← rest i)
  change i fun c => { c with wasFull := false }
  match cs with
  | '\x0c' :: behind =>
      leave i (behindEnd behind)
      modify fun s => { s with onlyFeed := true }
      if (← get).owesHead && !p.stores then
        modify fun s => { s with pads := true }
        putHead p
      else if p.keepsFeeds then modify fun s => { s with owesFeed := true }
      hold p i
      return true
  | [] =>
      leave i []
      close p i
      return true
  | '\n' :: behind =>
      leave i behind
      beginLine p i
      return true
  | c :: behind =>
      let before := (← get).inputColumn
      let chars ← clump p c
      if p.cuts && p.columnWidth < (← get).inputColumn then
        modify fun s => { s with inputColumn := before }
        leave i behind
        return false
      beginLine p i
      chars.forM (give p)
      goOn p i behind

/-! ## Stored pages -/

/-- Stores lines for a column; the first number bounds how many. -/
def storeLines (p : Plan) (i : Nat) : Nat → Drawing Unit
  | 0 => return
  | n + 1 => do
      if (← get).ready = 0 then return
      if ((← get).columns.getD i default).stand = .reading then
        modify fun s => { s with inputColumn := 0 }
        let before := (← get).store.size
        if !(← readLine p i) then leaveOut p i (← rest i)
        let s ← get
        if (s.columns.getD i default).stand = .reading || before ≠ s.store.size then
          change i fun c => { c with stored := c.stored + 1 }
          modify fun s => { s with
            starts := s.starts.push before, ends := s.ends.push s.inputColumn }
        storeLines p i n

/-- Stores a page, and spreads its lines over the columns. -/
def storePage (p : Plan) (fuel : Nat) : Drawing Unit := do
  changeAll fun c => { c with stored := 0 }
  modify fun s => { s with store := #[], starts := #[], ends := #[] }
  for i in List.range p.count do
    if (← get).ready ≠ 0 then storeLines p i (min fuel p.bodyLines)
  let total := (← get).starts.size
  let base := total / p.count
  let extra := total % p.count
  modify fun s => { s with
    starts := s.starts.push s.store.size
    columns := s.columns.mapIdx fun i c =>
      { c with
        stored := if i < extra then base + 1 else base
        next := base * i + min i extra } }

/-- Writes a stored line of a column. -/
def printStored (p : Plan) (i : Nat) : Drawing Unit := do
  let c := (← get).columns.getD i default
  change i fun c => { c with next := c.next + 1 }
  modify fun s => { s with pads := true }
  if (← get).owesHead then putHead p
  if c.stand = .fed then
    changeAll fun c => { c with stand := .held }
    if ((← get).columns.getD 0 default).left ≤ 0 then
      unless p.framed do modify fun s => { s with pads := false }
      return
  approach p
  let s ← get
  let text := s.store.extract (s.starts.getD c.next 0) (s.starts.getD (c.next + 1) 0)
  text.toList.forM (print p)
  if (← get).blanks = 0 then
    let goal : Int := c.start + s.ends.getD c.next 0
    let first := c.start = p.margin + p.between.length
    modify fun s => { s with column := if first then goal - p.between.length else goal }

/-! ## Pages -/

/-- Whether there is something to print in a column. -/
def Column.isReady (p : Plan) (c : Column) : Bool :=
  c.stand = .reading || c.stand = .fed || (p.stores && 0 < c.stored && 0 < c.left)

/-- Whether there is something to print. -/
def anyReady (p : Plan) : Drawing Bool := return (← get).columns.any (Column.isReady p)

/-- Writes the parts of a line from a column on. -/
def printParts (p : Plan) : List Nat → Drawing Unit
  | [] => return
  | i :: others => do
      modify fun s => { s with inputColumn := 0 }
      let c := (← get).columns.getD i default
      if 0 < c.left || c.stand = .fed then
        modify fun s => { s with onlyFeed := false, padding := c.start }
        if p.stores then printStored p i
        else if !(← readLine p i) then leaveOut p i (← rest i)
        change i fun c => { c with left := c.left - 1 }
        let after := (← get).columns.getD i default
        if after.left ≤ 0 && !(← anyReady p) then return
        if p.merges && after.stand ≠ .reading then
          if (← get).lineIsEmpty then modify fun s => { s with aligns := true }
          else if after.stand = .ended || (after.stand = .held && (← get).onlyFeed) then
            passColumn p i
      else if p.merges then
        if (← get).lineIsEmpty then modify fun s => { s with aligns := true }
        else passColumn p i
      if p.separates then modify fun s => { s with separators := s.separators + 1 }
      printParts p others

/-- Writes the lines of a page, and tells how many lines are left on it and whether any was
    written.  The first number bounds the steps. -/
def printLines (p : Plan) : Nat → Nat → Bool → Drawing (Nat × Bool)
  | 0, left, any => return (left, any)
  | fuel + 1, left, any => do
      if left = 0 || !(← anyReady p) then return (left, any)
      modify fun s => { s with
        column := 0, blanks := 0, separators := 0, pads := false, aligns := false
        lineIsEmpty := true }
      printParts p (List.range p.count)
      let pads := (← get).pads
      let any := any || pads
      if pads then put '\n'
      let left := if pads then left - 1 else left
      if !p.framed && !(← anyReady p) then return (left, any)
      if p.doubles && any then
        put '\n'
        printLines p fuel (left - 1) any
      else printLines p fuel left any

/-- Lets the columns that were held go on. -/
def goOnAll (p : Plan) : Drawing Unit := modify fun s =>
  let held := (s.columns.filter fun c => c.stand = .held).size
  let columns : Array Column :=
    s.columns.map fun c => if c.stand = .held then { c with stand := .reading } else c
  let ready : Nat :=
    if p.stores then (if (columns.getD 0 default).stand = .ended then 0 else 1) else s.ready + held
  { s with columns, ready }

/-- Writes a page, and tells whether there may be another one. -/
def printPage (p : Plan) (fuel : Nat) : Drawing Bool := do
  if p.stores then storePage p fuel
  changeAll fun c => { c with
    left := if p.stores then c.stored else if c.stand = .reading then p.bodyLines else 0 }
  if !(← anyReady p) then return false
  if p.framed then modify fun s => { s with owesHead := true }
  let (left, any) ← printLines p fuel (if p.doubles then 2 * p.bodyLines else p.bodyLines) false
  if left = 0 then
    changeAll fun c => { c with wasFull := c.wasFull || c.stand = .reading }
  if any && p.framed then
    modify fun s => { s with
      written := if p.feeds then s.written.push '\x0c' else s.written.pushn '\n' (left + 5) }
  else if p.keepsFeeds && (← get).owesFeed then
    put '\x0c'
    modify fun s => { s with owesFeed := false }
  let page := (← get).page + 1
  modify fun s => { s with page }
  if p.lastPage.any fun last => last < page then return false
  goOnAll p
  return true

/-- Writes pages; the first number bounds how many. -/
def printPages (p : Plan) (fuel : Nat) : Nat → Drawing Unit
  | 0 => return
  | n + 1 => do if ← printPage p fuel then printPages p fuel n

/-! ## Pages that are left out -/

/-- Leaves out a line of a column.  The lines that have numbers are counted. -/
def skipLine (p : Plan) (isLast : Bool) (i : Nat) : Drawing Unit := do
  let cs := pastFeed ((← get).columns.getD i default).wasFull (← rest i)
  change i fun c => { c with wasFull := isLast }
  match cs.span fun c => c ≠ '\n' && c ≠ '\x0c' with
  | (_, []) =>
      leave i []
      close p i
  | (_, '\n' :: behind) => leave i behind
  | (_, _ :: behind) =>
      if isLast then
        if p.merges then change i fun c => { c with wasFull := false }
        else changeAll fun c => { c with wasFull := false }
      leave i (behindEnd behind)
      hold p i
  if p.firstNumber.isNone && (!p.merges || i = 0) && cs.head? ≠ some '\x0c' then
    modify fun s => { s with number := s.number + 1 }

/-- Leaves out lines of all columns; the number tells how many. -/
def skipLines (p : Plan) : Nat → Drawing Unit
  | 0 => return
  | n + 1 => do
      unless (← get).columns.any fun c => c.stand = .reading do return
      for i in List.range p.count do
        if ((← get).columns.getD i default).stand = .reading then skipLine p (n = 0) i
      skipLines p n

/-- Leaves out pages before one.  If there are too few of them, their number is told. -/
def skipPages (p : Plan) (fuel : Nat) : Nat → Nat → Drawing (Option Nat)
  | 0, _ => return none
  | n + 1, page => do
      skipLines p p.bodyLines
      if p.stores then
        changeAll fun c => if c.stand = .ended then c else { c with stand := .held }
      goOnAll p
      if (← get).ready = 0 then return some page
      skipPages p fuel n (page + 1)

end WasmBinary.Machine.Script.Tool.Pages
