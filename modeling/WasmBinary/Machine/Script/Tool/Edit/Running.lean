/-
  Running scripts of the stream editor.

  1. **Lines** are read from one file after the other, or from each file as if it were the only one.
     The last line is known as soon as nothing follows it.

  2. **Outlets** — lines go to the output, into the file that is edited, or to files that the
     script names.  A line without an end gets one only when something else follows it there.

  3. **A cycle** takes the next line, runs the script on it, and writes what has become of it.
     Another text is held from cycle to cycle.

  4. **Running** counts its work, so that a script that never ends is noticed.
-/
import WasmBinary.Machine.Script.Tool.Edit.Reading
import WasmBinary.Machine.Script.Tool.Starting

namespace WasmBinary.Machine.Script.Tool.Edit

open Run

/-! ## Sessions -/

/-- How an editor works. -/
structure Settings where
  self : String
  quiet : Bool := false
  /-- Whether each file is edited as if it were the only one. -/
  separate : Bool := false
  /-- Whether files are replaced by what comes of them; with a pattern for the names of copies. -/
  inPlace : Option String := none
  /-- Whether links to files stay links. -/
  followsLinks : Bool := false
  ending : Char := '\n'
  width : Nat := 70
  unbuffered : Bool := false
  strict : Bool := false
  /-- What is said in front of a mistake that is found while the script runs. -/
  place : String := ""

/-- Where lines are written to. -/
inductive Outlet
  /-- The output, or the file that is edited. -/
  | main
  | output
  | errors
  | file (path : String)
deriving DecidableEq

/-- How far a range of lines has come. -/
inductive Range
  | outside
  /-- The line that ends it may be known. -/
  | inside (last : Option Nat)
  | passed

/-- What is written after a cycle. -/
inductive Later
  | text (text : String)
  | file (path : String)

/-- A file that is read. -/
structure Input where
  path : String
  /-- The number under which it is open. -/
  number : Nat
  /-- How many bytes of it have been read. -/
  size : Nat

/-- How far editing has come. -/
structure Session where
  /-- The files that are still to be opened. -/
  paths : List String
  /-- The file that was opened last. -/
  path : String := "-"
  input : Option Input := none
  /-- The lines of the file that are still to come. -/
  lines : List String := []
  number : Nat := 0
  pattern : String := ""
  /-- Whether the line had an end. -/
  ended : Bool := true
  hold : String := ""
  holdEnded : Bool := true
  /-- What was written to the output and to other files, the latest first. -/
  written : List (Outlet × String) := []
  /-- What was written for the file that is edited, the latest first. -/
  edited : List String := []
  /-- The outlets whose last lines have no end. -/
  owing : List Outlet := []
  later : List Later := []
  ranges : Array Range := #[]
  lastUsed : Option Expression := none
  substituted : Bool := false
  /-- The numbers under which files are open that are written to. -/
  targets : List (String × Nat) := []
  /-- What is left of the files that are read line by line. -/
  readers : List (String × List String) := []
  /-- Whether a file could not be opened. -/
  faulty : Bool := false
  work : Nat := 0

/-- An editor. -/
abbrev Editor := StateT Session Run

/-- How much work there may be. -/
def mostWork : Nat := 30000000

/-- Counts work. -/
def labour (amount : Nat) : Editor Unit := do
  let s ← get
  if mostWork < s.work then waitForEver
  set { s with work := s.work + amount }

/-- Writes what was kept back of the output and of other files. -/
def release : Editor Unit := do
  let s ← get
  set { s with written := [] }
  let textOf (o : Outlet) : String :=
    let parts := s.written.filterMap fun entry => if entry.1 = o then some entry.2 else none
    String.join parts.reverse
  for (path, number) in s.targets do
    let _ ← writeOpened number (ByteText.toBytes (textOf (.file path)))
  emit (textOf .output)

/-- Says what is wrong, and stops. -/
def giveUp {α : Type} (t : Settings) (text : String) (status : Nat) : Editor α := do
  say t.self text
  release
  finish status
  throw .failed

/-! ## Outlets -/

/-- Writes a text as it is. -/
def write (t : Settings) (o : Outlet) (text : String) : Editor Unit := do
  let keep (o : Outlet) : Editor Unit :=
    modify fun s => { s with written := (o, text) :: s.written }
  match o with
  | .main =>
      if t.inPlace.isSome then modify fun s => { s with edited := text :: s.edited }
      else if t.unbuffered then emit text
      else keep .output
  | .output => if t.unbuffered then emit text else keep .output
  | .errors => tell text
  | .file path => keep (.file path)

/-- Writes the end that the last line of an outlet lacks. -/
def settle (t : Settings) (o : Outlet) : Editor Unit := do
  if (← get).owing.contains o then
    modify fun s => { s with owing := s.owing.filter fun other => other ≠ o }
    write t o t.ending.toString

/-- Writes a line; it may lack its end. -/
def put (t : Settings) (o : Outlet) (line : String) (ended : Bool := true) : Editor Unit := do
  settle t o
  write t o (if ended then line.push t.ending else line)
  unless ended do modify fun s => { s with owing := o :: s.owing }

/-- Writes the text of an instruction. -/
def putText (t : Settings) (text : String) : Editor Unit := do
  if text = "" then settle t .main else put t .main (bare text)

/-- The outlet that a path means. -/
def outletOf (t : Settings) (path : String) : Outlet :=
  if t.strict then .file path
  else if path = "/dev/stdout" then .output
  else if path = "/dev/stderr" then .errors
  else .file path

/-- Opens the files that are written to, and empties them. -/
def openTargets (t : Settings) (paths : List String) : Editor Unit := do
  for path in paths do
    if outletOf t path = .file path && ((← get).targets.lookup path).isNone then
      match ← openPath path .replace with
      | .ok number => modify fun s => { s with targets := (path, number) :: s.targets }
      | .error fault => giveUp t ("couldn't open file " ++ path ++ ": " ++ fault.words) 4

/-- Writes what waits for the end of the cycle. -/
def writeLater (t : Settings) : Editor Unit := do
  let s ← get
  set { s with later := [] }
  unless s.later.isEmpty do
    settle t .main
    for later in s.later do
      match later with
      | .text text => write t .main text
      | .file path =>
          match ← readPath path .whole with
          | .ok data => write t .main (ByteText.ofBytes data)
          | .error .isADirectory =>
              giveUp t ("read error on " ++ path ++ ": Is a directory") 4
          | .error _ => pure ()

/-! ## Files -/

/-- The name for a copy of a file: stars stand for the name of the file. -/
def copyName (pattern path : String) : String :=
  let base := (path.splitOn "/").getLastD path
  let front := String.ofList (path.toList.take (path.length - base.length))
  let name := if pattern.contains '*' then base.intercalate (pattern.splitOn "*")
    else base ++ pattern
  if name.contains '/' then name else front ++ name

/-- Replaces a file by what has come of it. -/
def replaceFile (t : Settings) (path pattern : String) (data : ByteArray) : Editor Unit := do
  let start := (← shell).directory
  match (← files).spot start path t.followsLinks with
  | .error _ => return
  | .ok spot =>
      let mode := match (← files).findNode start path with
        | .ok node => node.mode
        | .error _ => 0o644
      if pattern ≠ "" then
        let copy := copyName pattern path
        match (← files).spot start copy false, spot.node with
        | .ok target, some i =>
            if !target.node.any (fun j => i = j) then
              modifyFiles fun files => files.rename spot i target.directory target.name
        | .error fault, _ =>
            giveUp t ("cannot rename " ++ path ++ ": " ++ fault.words) 4
        | _, _ => pure ()
      modifyFiles fun files =>
        let files := files.unlink spot.directory spot.name
        (files.make spot.directory spot.name (.plain data mode)).2

/-- Leaves the file that was read. -/
def closeInput (t : Settings) : Editor Unit := do
  let s ← get
  if let some input := s.input then
    set { s with input := none, lines := [], edited := [] }
    if let some pattern := t.inPlace then
      replaceFile t input.path pattern (ByteText.toBytes (String.join s.edited.reverse))

/-- Opens the next file, if there is one; that may fail. -/
def openNext (t : Settings) : Editor Bool := do
  match (← get).paths with
  | [] => return false
  | path :: paths =>
      let kept (o : Outlet) : Bool := t.inPlace.isNone || o ≠ .main
      modify fun s => { s with path, paths, owing := s.owing.filter kept }
      match ← (if t.inPlace.isSome then openPath path .input else openOperand path) with
      | .error fault =>
          say t.self ("can't read " ++ path ++ ": " ++ fault.words)
          modify fun s => { s with faulty := true }
      | .ok number =>
          if t.inPlace.isSome && !(← isPlainFile path) then
            giveUp t ("couldn't edit " ++ path ++ ": not a regular file") 4
          match ← readOpened number .flow with
          | .error fault =>
              let name := if path = "-" then "stdin" else path
              giveUp t ("read error on " ++ name ++ ": " ++ fault.words) 4
          | .ok data =>
              modify fun s =>
                { s with
                  input := some { path, number, size := data.size }
                  lines := piecesOf t.ending (ByteText.ofBytes data) }
      return true

/-- Goes on to the next file that has lines: whether there is one.  The number bounds how many files
    there are. -/
def skipFiles (t : Settings) : Nat → Editor Bool
  | 0 => return false
  | n + 1 => do
      closeInput t
      if !(← openNext t) then return false
      if (← get).lines.isEmpty then skipFiles t n else return true

/-- Whether nothing follows the current line. -/
def atEnd (t : Settings) : Editor Bool := do
  let s ← get
  if !s.lines.isEmpty then return false
  else if t.separate then return true
  else return !(← skipFiles t (s.paths.length + 1))

/-- Starts to read a file as if it were the first one. -/
def restart (t : Settings) : Editor Unit := do
  settle t .main
  modify fun s =>
    { s with
      number := 0
      hold := ""
      ranges := s.ranges.map fun _ => .outside
      readers := [] }

/-- Reads the next line, in the place of the current one or behind it: whether there is one. -/
def readPattern (t : Settings) (appends : Bool) : Editor Bool := do
  writeLater t
  modify fun s => { s with substituted := false }
  let fresh := (← get).lines.isEmpty
  let some _ ← find ((← get).paths.length + 1) | return false
  let s ← get
  match s.lines with
  | [] => return false
  | piece :: lines =>
      labour (1 + piece.length / 16)
      let ended := piece.endsWith t.ending.toString
      let line := if ended then String.ofList piece.toList.dropLast else piece
      let number := if fresh && t.separate then 1 else s.number + 1
      modify fun s =>
        { s with
          lines
          number
          ended
          pattern := if appends then s.pattern ++ t.ending.toString ++ line else line }
      return true
where
  /-- Finds a file that has a line left. -/
  find : Nat → Editor (Option Unit)
    | 0 => return none
    | n + 1 => do
        if !(← get).lines.isEmpty then return some ()
        closeInput t
        if t.separate && !(← get).paths.isEmpty then restart t
        if ← openNext t then find n else return none

/-! ## Addresses -/

/-- The expression that counts: without one, the last one that was used. -/
def expressionUsed (t : Settings) (e : Option Expression) (least : Nat := 0) :
    Editor Expression := do
  let s ← get
  match e.orElse fun _ => s.lastUsed with
  | none => giveUp t (t.place ++ "no previous regular expression") 1
  | some e =>
      modify fun s => { s with lastUsed := some e }
      if e.groups < least then
        giveUp t (t.place ++ "invalid reference \\" ++ toString least ++ " on " ++
          (Char.ofNat 0x60).toString ++ "s' command's RHS") 1
      return e

/-- The current line, ready to be searched. -/
def searcher (t : Settings) (e : Expression) : Editor Regex.Searcher := do
  let pattern := (← get).pattern
  labour (pattern.length * 2)
  let line : Regex.Line :=
    { text := pattern.toList.toArray, caseless := e.caseless, lines := e.lines
      lineEnd := t.ending }
  return Regex.Searcher.of line e.regex

/-- Whether an address means the current line. -/
def Address.holds (t : Settings) : Address → Editor Bool
  | line n => return (← get).number = n
  | last => atEnd t
  | step first every => do
      let n := (← get).number
      return first ≤ n && (n - first) % every = 0
  | fitting e => do return (← searcher t (← expressionUsed t e)).found
  | further _ | multiple _ => return false

/-- Sets how far a range has come. -/
def setRange (place : Nat) (range : Range) : Editor Unit :=
  modify fun s => { s with ranges := s.ranges.setIfInBounds place range }

/-- Whether the current line is in the range at a place that has begun. -/
def goesOn (t : Settings) (place : Nat) (b : Address) (last : Option Nat) : Editor Bool := do
  let n := (← get).number
  let last := match b with
    | .line m => some m
    | _ => last
  match last with
  | some last =>
      if last ≤ n then setRange place .passed
      return n ≤ last
  | none =>
      if ← b.holds t then setRange place .passed
      return true

/-- Begins a range at the current line, unless it ends there. -/
def begin (place : Nat) (b : Address) : Editor Unit := do
  let n := (← get).number
  let enter (last : Option Nat) : Editor Unit :=
    if last.any fun last => last ≤ n then setRange place .passed else setRange place (.inside last)
  match b with
  | .line m => enter (some m)
  | .further k => enter (some (n + k))
  | .multiple k => enter (some (if k = 0 then n else n + k - n % k))
  | _ => enter none

/-- Whether the current line is in the range at a place. -/
def inRange (t : Settings) (place : Nat) (a b : Address) : Editor Bool := do
  let s ← get
  match a, (s.ranges[place]?).getD .outside with
  | _, .inside last => goesOn t place b last
  | .line 0, .outside =>
      setRange place (.inside none)
      goesOn t place b none
  | .line _, .passed => return false
  | .line n, .outside =>
      if s.number < n then return false
      match b with
      | .line m =>
          begin place b
          return s.number = n || s.number ≤ m
      | _ =>
          begin place b
          return true
  | a, _ =>
      if ← a.holds t then
        begin place b
        return true
      else return false

/-- Whether an instruction is for the current line. -/
def Instruction.applies (t : Settings) (i : Instruction) (place : Nat) : Editor Bool := do
  let here ← match i.first, i.second with
    | none, _ => pure true
    | some a, none => a.holds t
    | some a, some b => inRange t place a b
  return here ≠ i.negated

/-! ## Substitution -/

/-- A text with other letters. -/
def Letters.apply : Letters → String → String
  | same, text => text
  | upper, text => text.map Char.toUpper
  | lower, text => text.map Char.toLower

/-- A text with other letters, and perhaps others still for the first one. -/
def withLetters (letters first : Letters) (text : String) : String :=
  match text.toList with
  | [] => ""
  | c :: rest =>
      let front := if first = .same then letters else first
      front.apply c.toString ++ letters.apply (String.ofList rest)

/-- The text of a replacement.  What becomes of a first letter waits until there is one. -/
def replaced (line : Regex.Line) (m : Regex.Match) : List Piece → (waiting : Letters) → String
  | [], _ => ""
  | piece :: rest, waiting =>
      let first := if piece.first = .same then waiting else piece.first
      let front := withLetters piece.letters first piece.text
      let left := if piece.text = "" then first else .same
      match piece.group with
      | none => front ++ replaced line m rest .same
      | some n =>
          let text := m.group line n
          if text = "" then
            front ++ replaced line m rest (if piece.first = .same then .same else left)
          else front ++ withLetters piece.letters left text ++ replaced line m rest .same

/-- Substitutes from a position on: what the line is made of behind what there is already, the
    latest first, and whether anything was replaced.  A match of nothing right behind another match
    does not count. -/
def substituteFrom (searcher : Regex.Searcher) (s : Substitution) :
    Nat → (count position : Nat) → (behind : Option Nat) → (done : List String) →
    List String × Bool
  | 0, _, _, _, done => (done, false)
  | n + 1, count, position, behind, done =>
      let line := searcher.line
      let between (i j : Nat) : String := String.ofList (line.text.extract i j).toList
      let size := line.text.size
      match searcher.next? position with
      | none => (between position size :: done, false)
      | some m =>
          let done := between position m.first :: done
          let bare := m.first = m.last
          if bare && behind = some m.first then
            if size ≤ m.last then (done, false)
            else substituteFrom searcher s n count (m.last + 1) none
              (between m.first (m.last + 1) :: done)
          else
            let chosen := s.nth.getD 1 ≤ count + 1
            let done := (if chosen then replaced line m s.replacement .same
              else between m.first m.last) :: done
            if chosen && !s.every then (between m.last size :: done, true)
            else if bare && size ≤ m.last then (done, chosen)
            else
              let (done, hit) := if bare then
                  substituteFrom searcher s n (count + 1) (m.last + 1) none
                    (between m.last (m.last + 1) :: done)
                else substituteFrom searcher s n (count + 1) m.last (some m.last) done
              (done, hit || chosen)

/-- Runs the line as a command, and puts what that writes in its place. -/
def runPattern (t : Settings) (start : Starter) : Editor Unit := do
  let (text, _) ← outputOf start "sh" (← get).pattern
  let text := if text.endsWith t.ending.toString then String.ofList text.toList.dropLast else text
  modify fun s => { s with pattern := text }

/-- Runs a substitution. -/
def Substitution.run (t : Settings) (start : Starter) (sub : Substitution) : Editor Unit := do
  let least := sub.replacement.foldl (fun n piece => max n (piece.group.getD 0)) 0
  let e ← expressionUsed t sub.expression (if sub.expression.isNone then least else 0)
  let searcher ← searcher t e
  let (texts, hit) := substituteFrom searcher sub (searcher.line.text.size + 2) 0 0 none []
  if hit then
    modify fun s => { s with pattern := String.join texts.reverse, substituted := true }
    let printed (o : Outlet) : Editor Unit := do
      let s ← get
      put t o s.pattern s.ended
    if sub.printsBefore then printed .main
    if sub.runs then runPattern t start
    if sub.prints then printed .main
    if let some path := sub.target then printed (outletOf t path)

/-! ## Instructions -/

/-- How a script goes on. -/
inductive Next
  | following
  | place (i : Nat)
  /-- The cycle ends; the line is written, or not. -/
  | ending (prints : Bool)
  /-- The cycle ends, and the next one goes on with what there is. -/
  | again
  /-- Everything ends with a status; the line is written, or not. -/
  | stop (status : Nat) (prints : Bool)

/-- A character in a form that shows it. -/
def visible (c : Char) : List Char :=
  match c with
  | '\\' => ['\\', '\\']
  | c => if isPrintable c then [c] else escapeOf c

/-- A line in a form that shows every character, in lines of a length. -/
def unambiguous (width : Nat) (text : String) : String :=
  let (shown, _) := text.toList.foldl (fun (shown, column) c =>
    let cs := visible c
    if 0 < width && width - 1 < column + cs.length then
      (cs.reverse ++ '\n' :: '\\' :: shown, cs.length)
    else (cs.reverse ++ shown, column + cs.length)) (([] : List Char), 0)
  String.ofList shown.reverse ++ "$"

/-- The part of a text in front of the first end of a line in it, and the part behind that. -/
def firstLine (ending : Char) (text : String) : String × Option String :=
  let front := text.toList.takeWhile (· ≠ ending)
  (String.ofList front,
    if front.length = text.length then none
    else some (String.ofList (text.toList.drop (front.length + 1))))

/-- Runs an instruction that is just a letter. -/
def runLetter (t : Settings) (c : Char) : Editor Next := do
  let s ← get
  let joined (a b : String) : String := a ++ t.ending.toString ++ b
  match c with
  | 'd' => return .ending false
  | 'D' =>
      match firstLine t.ending s.pattern with
      | (_, none) => return .ending false
      | (_, some rest) =>
          set { s with pattern := rest }
          return .again
  | 'p' => put t .main s.pattern s.ended
  | 'P' => put t .main (firstLine t.ending s.pattern).1
  | 'n' =>
      if ← atEnd t then return .ending !t.strict
      unless t.quiet do put t .main s.pattern s.ended
      let _ ← readPattern t false
  | 'N' =>
      if ← atEnd t then return .ending !t.strict
      let _ ← readPattern t true
  | 'g' => set { s with pattern := s.hold, ended := s.holdEnded }
  | 'G' => set { s with pattern := joined s.pattern s.hold, ended := s.holdEnded }
  | 'h' => set { s with hold := s.pattern, holdEnded := s.ended }
  | 'H' => set { s with hold := joined s.hold s.pattern, holdEnded := s.ended }
  | 'x' =>
      set { s with
        pattern := s.hold, ended := s.holdEnded, hold := s.pattern, holdEnded := s.ended }
  | '=' => put t .main (toString s.number)
  | 'F' => put t .main s.path
  | _ => set { s with pattern := "" }
  return .following

/-- What a character becomes where each of some characters becomes another one. -/
def mappedTo (source target : List Char) (c : Char) : Char :=
  ((source.zip target).reverse.lookup c).getD c

/-- The next line of a file that is read line by line. -/
def nextLineOf (t : Settings) (path : String) : Editor (Option String) := do
  let lines ← match (← get).readers.lookup path with
    | some lines => pure lines
    | none =>
        match ← readOperand (if path = "/dev/stdin" then "-" else path) .whole with
        | .ok text => pure (piecesOf t.ending text)
        | .error .isADirectory => giveUp t ("read error on " ++ path ++ ": Is a directory") 4
        | .error _ => pure []
  modify fun s =>
    { s with readers := (path, lines.tail) :: s.readers.filter fun entry => entry.1 ≠ path }
  return lines.head?

/-- Runs an instruction for the current line. -/
def runAction (t : Settings) (start : Starter) (place : Nat) (i : Instruction) : Editor Next := do
  let add (later : Later) : Editor Next := do
    modify fun s => { s with later := s.later ++ [later] }
    return .following
  match i.action with
  | .substitute s =>
      s.run t start
      return .following
  | .map source target =>
      labour ((← get).pattern.length)
      modify fun s => { s with pattern := s.pattern.map (mappedTo source target) }
      return .following
  | .append text => add (.text text)
  | .insert text =>
      putText t text
      return .following
  | .change text =>
      let inside := match (← get).ranges[place]? with
        | some (.inside _) => true
        | _ => false
      unless inside do putText t text
      return .ending false
  | .jump _ target wanted =>
      match wanted with
      | none => return .place target
      | some wanted =>
          let s ← get
          set { s with substituted := false }
          return if s.substituted = wanted then .place target else .following
  | .label _ | .opening _ | .closing => return .following
  | .quit status prints => return .stop status prints
  | .show width =>
      let s ← get
      settle t .main
      put t .main (unambiguous (width.getD t.width) s.pattern)
      return .following
  | .readFile path => add (.file path)
  | .readLine path =>
      match ← nextLineOf t path with
      | none => return .following
      | some line => add (.text line)
  | .writeFile path =>
      let s ← get
      put t (outletOf t path) s.pattern s.ended
      return .following
  | .writeLine path =>
      put t (outletOf t path) (firstLine t.ending (← get).pattern).1
      return .following
  | .run none =>
      runPattern t start
      return .following
  | .run (some command) =>
      settle t .main
      write t .main (← outputOf start "sh" command).1
      return .following
  | .letter c => runLetter t c

/-- Runs a script from a place on; the first number bounds how many steps there are. -/
def runFrom (t : Settings) (start : Starter) (script : Array Instruction) :
    Nat → Nat → Editor Next
  | 0, _ => waitForEver
  | n + 1, place => do
      match script[place]? with
      | none => return .ending true
      | some i =>
          labour 1
          if ← i.applies t place then
            match ← runAction t start place i with
            | .following => runFrom t start script n (place + 1)
            | .place next => runFrom t start script n next
            | next => return next
          else
            match i.action with
            | .opening close => runFrom t start script n (close + 1)
            | _ => runFrom t start script n (place + 1)

/-! ## Cycles -/

/-- Runs cycles, and leaves the status that the script has asked for, if any.  The first number
    bounds how many cycles there are; the flag says that there is a line already. -/
def cycles (t : Settings) (start : Starter) (script : Array Instruction) :
    Nat → (kept : Bool) → Editor (Option Nat)
  | 0, _ => waitForEver
  | n + 1, kept => do
      let there ← if kept then pure true else readPattern t false
      if !there then return none
      let printed : Editor Unit := do
        let s ← get
        unless t.quiet do put t .main s.pattern s.ended
      match ← runFrom t start script mostWork 0 with
      | .stop status prints =>
          if prints then
            printed
            writeLater t
          return some status
      | .again =>
          writeLater t
          cycles t start script n true
      | .ending prints =>
          if prints then printed
          cycles t start script n false
      | _ => cycles t start script n false

/-- How many bytes are read from a pipe at once. -/
def readAtOnce : Nat := 4096

/-- Gives back what was read of the input and not used. -/
def giveInputBack (t : Settings) : Editor Unit := do
  let s ← get
  if let some input := s.input then
    let left := sumOf (s.lines.map String.length)
    match ← pipeOf? input.number with
    | none => giveBack input.number left
    | some pipe =>
        let used := input.size - left
        let used := if t.unbuffered then used
          else (used + readAtOnce - 1) / readAtOnce * readAtOnce
        modifyPipes fun pipes => pipes.modify pipe fun p =>
          { p with taken := p.taken - (input.size - used) }

/-- Runs a script on files. -/
def edit (t : Settings) (start : Starter) (script : Array Instruction) : Editor Unit := do
  modify fun s => { s with ranges := Array.replicate script.size .outside }
  let status ← cycles t start script (Nat.pow 2 40) false
  if status.isSome then
    giveInputBack t
    satisfied
  let faulty := (← get).faulty
  closeInput t
  release
  finish (if faulty then 2 else status.getD 0)

end WasmBinary.Machine.Script.Tool.Edit
