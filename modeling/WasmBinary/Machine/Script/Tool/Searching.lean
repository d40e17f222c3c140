/-
  Searching files.

  1. **Files** are searched one after the other.  Directories are searched as a whole where that is
     wanted, and names may be left out.

  2. **Faults** of files are told, and the search goes on; the status tells of them in the end.

  3. **The status** tells whether any line was selected.  If nothing else is wanted, the search ends
     with the first one.
-/
import WasmBinary.Machine.Script.Tool.Paths
import WasmBinary.Machine.Script.Tool.Searching.Lines

namespace WasmBinary.Machine.Script.Tool

open Run

namespace Searching

/-- What has come of the files so far. -/
structure Tally where
  grouped : Bool := false
  found : Bool := false
  failed : Bool := false

/-- A search through files. -/
abbrev Sweep := StateT Tally Run

/-- What is searched for, and how. -/
structure Plan where
  self : String
  settings : Settings
  finder : Finder
  palette : Palette
  /-- Whether names are told, where that does not depend on the file. -/
  named : Option Bool

namespace Plan

/-- Tells a fault of a file. -/
def lament (p : Plan) (name words : String) : Sweep Unit := do
  if !p.settings.silent then (say p.self (name ++ ": " ++ words) : Run Unit)
  modify fun t => { t with failed := true }

/-- Whether what is open is the plain file that the output goes to. -/
def isOutput (number : Nat) : Run Bool := do
  let some output ← opening? 1 | return false
  match ← openedAt? number, ← openedAt? output with
  | some source, some target =>
      match source.target, target.target with
      | .node i, .node j => return i = j && ((← files).node? i).any Node.isPlain
      | _, _ => return false
  | _, _ => return false

/-- How wide the numbers in what is open are. -/
def widthOf (number : Nat) (numbers : Bool) : Run Nat := do
  match (← openedAt? number).map Opened.target with
  | some (.node i) =>
      if ((← files).node? i).any Node.isPlain then
        return (toString ((← fileSize i) + numbers.toNat)).length
      else return 19
  | _ => return 19

/-- Searches what is open under a number. -/
def searchOpened (p : Plan) (number : Nat) (standard : Bool) (label : String) (named : Bool) :
    Sweep Unit := do
  let s := p.settings
  if !s.hidesLines && s.most != some 1 && (← isOutput number) then
    return ← p.lament label "input file is also the output"
  let width ← (widthOf number s.numbers : Run Nat)
  let (data, fault) ← match ← (readOpened number .flow : Run _) with
    | .ok data => pure (data, none)
    | .error fault => pure (ByteArray.empty, some fault)
  if let some fault := fault then p.lament label fault.words
  let display : Show :=
    { settings := s, palette := p.palette, finder := p.finder, label, named, width }
  let result := display.search (← get).grouped (ByteText.ofBytes data)
  let found := result.selected != 0
  let full := s.most.any (· ≤ result.selected)
  if full || (found && s.stopsAtFirst) then (satisfied : Run Unit)
  if found && s.quiet then
    (finish 0 : Run Unit)
    throw .failed
  modify fun t => { t with grouped := result.grouped, found := t.found || found }
  (emit (String.join result.output.reverse) : Run Unit)
  if s.counts && !s.stopsAtFirst then
    (emit (display.nameHead ":" ++ toString result.selected ++ "\n") : Run Unit)
  if s.lists = some found && !s.quiet then
    let ending := if s.zeroNames then "\x00" else "\n"
    (emit (display.paint Palette.name label ++ ending) : Run Unit)
  if result.hidden then (say p.self (label ++ ": binary file matches") : Run Unit)
  if standard && full then (giveBack number (data.size - result.reached) : Run Unit)

/-- Searches the input. -/
def searchInput (p : Plan) : Sweep Unit := do
  let label := p.settings.label
  match ← (opening? 0 : Run _) with
  | none => p.lament label badStream.words
  | some number => p.searchOpened number true label (p.named.getD false)

/-- Searches the file at a path. -/
def searchFile (p : Plan) (path label : String) (named : Bool) : Sweep Unit := do
  match ← (openPath path .input : Run _) with
  | .error fault => p.lament label fault.words
  | .ok number => p.searchOpened number false label named

/-- Whether a device or a queue is passed over. -/
def passesOver (p : Plan) (operand : Bool) (node : Node) : Bool :=
  let special := node.isDevice || node.kindLetter = 'p'
  special && (p.settings.devices = .skip || (p.settings.devices = .readOperands && !operand))

/-- Whether a name is left out. -/
def excludes (p : Plan) (operand : Bool) (node : Node) (name : String) : Bool :=
  if node.isDirectory then NameRule.excludes p.settings.folderNames operand name
  else NameRule.excludes p.settings.names operand name

/-- Searches what is at a path and below it. -/
def searchTree (p : Plan) :
    Nat → (above : List Nat) → (path label name : String) → Sweep Unit
  | 0, _, _, _, _ => return
  | n + 1, above, path, label, name => do
      let operand := above.isEmpty
      match ← (lookAt path (operand || p.settings.follows) : Run _) with
      | .error fault =>
          let lost ← (lookAt path false : Run _)
          if !operand && lost.toOption.any fun found => p.excludes false found.2 name then return
          p.lament label fault.words
      | .ok (i, node) =>
          if p.excludes operand node name || node.target?.isSome then return
          if !node.isDirectory then
            if !p.passesOver operand node then
              p.searchFile path label (p.named.getD true)
          else if above.contains i then
            if !p.settings.silent then
              (say p.self (label ++ ": warning: recursive directory loop") : Run Unit)
          else if !node.allows .read then p.lament label FileFault.permissionDenied.words
          else
            for child in node.names do
              let shown := if label = "" then child else inside label child
              searchTree p n (i :: above) (inside path child) shown child

/-- Searches an operand. -/
def searchOperand (p : Plan) (path : String) : Sweep Unit := do
  if path = "-" then return ← p.searchInput
  match ← (lookAt path : Run _) with
  | .error fault => p.lament path fault.words
  | .ok (_, node) =>
      if !node.allows .read then return ← p.lament path FileFault.permissionDenied.words
      if p.passesOver true node || p.excludes true node path then return
      if node.isDirectory then
        match p.settings.folders with
        | .skip => return
        | .recurse => searchTree p ((← (files : Run _)).nodes.size + 2) [] path path path
        | .read => p.searchFile path path (p.named.getD true)
      else p.searchFile path path (p.named.getD false)

end Plan

/-- The patterns that an option gives, each with where it comes from, or why they cannot be
    read. -/
def patternsOf (source : PatternSource) : Run (Except String (List (String × String))) := do
  match source with
  | .text patterns => return .ok ((patterns.splitOn "\n").map fun text => (text, ""))
  | .file path =>
      match ← readOperand path .whole with
      | .error fault => return .error (path ++ ": " ++ fault.words)
      | .ok text =>
          return .ok ((recordsOf '\n' text).zipIdx.map fun (line, i) =>
            (line, (if path = "-" then "-" else path) ++ ":" ++ toString (i + 1) ++ ": "))

/-- Where help is to be found, in the name of the program. -/
def usageLines : List String :=
  ["Usage: grep [OPTION]... PATTERNS [FILE]...", "Try 'grep --help' for more information."]

/-- Tells what is wrong with how the program is used. -/
def refuse (self : String) (m : Misuse) : Run Unit :=
  let more := if m.hint then usageLines else []
  Misuse.report { m with lines := m.lines ++ more, hint := false } self 2

/-- Reads all patterns; what is wrong with them is told. -/
def finderOf (self : String) (s : Settings) (sources : List PatternSource) :
    Run (Finder × List String) := do
  let gathered ← sources.mapM fun source => do
    match ← patternsOf source with
    | .ok patterns => return patterns
    | .error text =>
        fail self text 2
        throw .failed
  let patterns := gathered.flatten
  let kind := (s.kind.bind Settings.kindOf?).getD .basic
  let solid := s.ending ≠ '\n'
  if kind = .rich && 1 < patterns.length then
    fail self "the -P option only supports a single pattern" 2
    throw .failed
  let expressions ← patterns.mapM fun (text, place) => do
    match expressionOf kind solid text with
    | .ok r => return some r
    | .error fault =>
        say self (place ++ fault)
        return none
  if !expressions.all Option.isSome then
    finish 2
    throw .failed
  let texts := (patterns.map Prod.fst).eraseDups
  for text in texts do
    let remarks := remarksOf kind text
    for line in remarks.lines do say self ("warning: " ++ line)
    if let some fault := remarks.fault then
      fail self fault 2
      throw .failed
  let finder : Finder :=
    { expressions := expressions.filterMap id
      caseless := s.caseless
      words := s.words
      wholeLines := s.wholeLines
      longest := kind ≠ .rich }
  return (finder, texts)

/-- The palette that variables ask for. -/
def paletteOf (self : String) (s : Settings) : Run Palette := do
  if !s.colored then return {}
  let old := (← exportedValue? "GREP_COLOR").getD ""
  let change := "mt=" ++ old
  if old ≠ "" then
    let advice := "use GREP_COLORS='" ++ change ++ "'"
    say self ("warning: GREP_COLOR='" ++ old ++ "' is deprecated; " ++ advice)
  let usual : Palette := if old ≠ "" then Palette.change {} change else {}
  return usual.changeAll ((← exportedValue? "GREP_COLORS").getD "")

/-- Leaves out the names that files list as well. -/
def withExclusions (self : String) (s : Settings) : Run Settings :=
  s.exclusions.foldlM (fun s path => do
    match ← readOperand path .whole with
    | .ok text => return (recordsOf '\n' text).foldl (fun s line => s.withRule false line) s
    | .error fault =>
        fail self (path ++ ": " ++ fault.words) 2
        throw .failed) s

/-- Searches all operands. -/
def searchAll (self : String) (s : Settings) (finder : Finder) (texts operands : List String) :
    Run Unit := do
  let all := texts = [""] && s.inverted && !s.wholeLines && !s.words
  if (s.most = some 0 || all) && s.lists ≠ some false then return ← finish 1
  let recurses := s.folders = .recurse
  let named := match s.named with
    | some named => some named
    | none => if 1 < operands.length then some true else if recurses then none else some false
  let plan : Plan := { self, settings := s, finder, palette := ← paletteOf self s, named }
  let search : Sweep Unit :=
    if operands.isEmpty && recurses then do
      plan.searchTree ((← (files : Run _)).nodes.size + 2) [] "." "" "."
    else (orInput operands).forM plan.searchOperand
  let (_, tally) ← search.run {}
  if let some fault := (← get).world.unwritten then
    modifyWorld fun w => { w with unwritten := none }
    return ← fail self ("write error: " ++ fault.words) 2
  finish (if tally.failed then 2 else if tally.found then 0 else 1)

end Searching

/-- Finds lines. -/
def grep : Tool := fun self arguments => do
  let u := usageFor Searching.Settings.choices arguments
  for option in u.options do
    if option.key = "u" then say self "warning: --unix-byte-offsets (-u) is obsolete"
  match u.foldOptions {} Searching.Settings.step with
  | .error m => Searching.refuse self m
  | .ok s =>
      let described := s.described.orElse fun _ => (u.options.find? Given.describes).map Given.key
      match described with
      | some key =>
          if key = "version" then emit "grep (GNU grep) 3.11\n"
          finish 0
      | none =>
          let (sources, operands) := match s.sources, u.operands with
            | [], first :: others => ([Searching.PatternSource.text first], others)
            | given, operands => (given.reverse, operands)
          if sources.isEmpty then
            tell (String.join (Searching.usageLines.map (·.push '\n')))
            finish 2
          else
            let s ← Searching.withExclusions self s
            let (finder, texts) ← Searching.finderOf self s sources
            Searching.searchAll self s finder texts operands

end WasmBinary.Machine.Script.Tool
