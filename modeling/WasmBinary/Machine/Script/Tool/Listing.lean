/-
  Listing files and what is in directories.

  1. **What** — names that start with a dot are listed only if that is wanted.  Directories among
     the operands are listed by what is in them, behind all other operands.

  2. **Order** — by name, size, time, ending or version.

  3. **Lines** — a name stands on a line of its own, in columns, or behind all that is known about
     its node.
-/
import WasmBinary.Machine.Accounts
import WasmBinary.Machine.Calendar.Writing
import WasmBinary.Machine.Script.Pattern
import WasmBinary.Machine.Script.Tool.Dates
import WasmBinary.Machine.Script.Tool.Versions

namespace WasmBinary.Machine.Script.Tool

open Run

/-! ## Settings -/

/-- How names are arranged. -/
inductive ListFormat
  | single
  | long
  | columns
  | across
  | commas
deriving DecidableEq

/-- What names are ordered by. -/
inductive ListOrder
  | name
  | size
  | time
  | ending
  | version
  | width
  | nothing
deriving DecidableEq

/-- How names are quoted. -/
inductive NameQuoting
  | plain
  | doubled
  | escaped
  | shell
  | shellAlways
deriving DecidableEq

/-- Which marks show the kinds of nodes. -/
inductive KindMarks
  | none
  | slash
  | kinds
  | all
deriving DecidableEq

/-- How files are listed. -/
structure ListSettings where
  hidden : Bool := false
  dots : Bool := false
  format : ListFormat := .single
  order : ListOrder := .name
  reversed : Bool := false
  foldersFirst : Bool := false
  usage : Bool := false
  folders : Bool := false
  recursive : Bool := false
  marks : KindMarks := .none
  numbers : Bool := false
  blocks : Bool := false
  human : Option Nat := none
  numeric : Bool := false
  owner : Bool := true
  group : Bool := true
  follows : Bool := false
  followsOperands : Bool := false
  quoting : NameQuoting := .plain
  controls : Bool := false
  style : Option String := none
  full : Bool := false
  ignored : List String := []
  width : Nat := 80
  zero : Bool := false

namespace ListSettings

/-- The order of a word. -/
def orderOf (s : ListSettings) (word : String) : Except Misuse ListSettings := do
  match ← choiceOf ["none", "size", "time", "version", "extension", "name", "width"] word
      "--sort" with
  | "none" => return { s with order := .nothing }
  | "size" => return { s with order := .size }
  | "time" => return { s with order := .time }
  | "version" => return { s with order := .version }
  | "extension" => return { s with order := .ending }
  | "width" => return { s with order := .width }
  | _ => return { s with order := .name }

/-- The format of a word. -/
def formatOf (s : ListSettings) (word : String) : Except Misuse ListSettings := do
  match ← choiceOf ["verbose|long", "commas", "horizontal|across", "vertical", "single-column"]
      word "--format" with
  | "verbose" => return { s with format := .long }
  | "commas" => return { s with format := .commas }
  | "horizontal" => return { s with format := .across }
  | "vertical" => return { s with format := .columns }
  | _ => return { s with format := .single }

/-- The quoting of a word. -/
def quotingOf (s : ListSettings) (word : String) : Except Misuse ListSettings := do
  match ← choiceOf ["literal", "shell", "shell-always", "shell-escape", "shell-escape-always", "c",
      "c-maybe", "escape", "locale", "clocale"] word "--quoting-style" with
  | "shell" | "shell-escape" => return { s with quoting := .shell }
  | "shell-always" | "shell-escape-always" => return { s with quoting := .shellAlways }
  | "c" | "c-maybe" => return { s with quoting := .doubled }
  | "escape" => return { s with quoting := .escaped }
  | _ => return { s with quoting := .plain }

/-- The marks of a word. -/
def marksOf (s : ListSettings) (word : String) : Except Misuse ListSettings := do
  match ← choiceOf ["none", "slash", "file-type", "classify"] word "--indicator-style" with
  | "slash" => return { s with marks := .slash }
  | "file-type" => return { s with marks := .kinds }
  | "classify" => return { s with marks := .all }
  | _ => return { s with marks := .none }

/-- The next option of `ls`. -/
def step (s : ListSettings) (option : Given) : Except Misuse ListSettings :=
  match option.key with
  | "a" => .ok { s with hidden := true, dots := true }
  | "A" => .ok { s with hidden := true, dots := false }
  | "b" => .ok { s with quoting := .escaped }
  | "B" => .ok { s with ignored := s.ignored ++ ["*~", ".*~"] }
  | "c" => .ok s
  | "C" => .ok { s with format := .columns }
  | "d" => .ok { s with folders := true }
  | "f" =>
      let format := if s.format = .long then .single else s.format
      .ok { s with hidden := true, dots := true, order := .nothing, format }
  | "F" => .ok { s with marks := .all }
  | "file-type" => .ok { s with marks := .kinds }
  | "format" => s.formatOf option.value
  | "full-time" => .ok { s with format := .long, style := some "full-iso" }
  | "g" => .ok { s with format := .long, owner := false }
  | "G" => .ok { s with group := false }
  | "group-directories-first" => .ok { s with foldersFirst := true }
  | "h" => .ok { s with human := some 1024 }
  | "si" => .ok { s with human := some 1000 }
  | "H" => .ok { s with followsOperands := true }
  | "hide" | "I" => .ok { s with ignored := s.ignored ++ [option.value] }
  | "i" => .ok { s with numbers := true }
  | "indicator-style" => s.marksOf option.value
  | "l" => .ok { s with format := .long }
  | "L" => .ok { s with follows := true }
  | "m" => .ok { s with format := .commas }
  | "n" => .ok { s with format := .long, numeric := true }
  | "N" => .ok { s with quoting := .plain }
  | "o" => .ok { s with format := .long, group := false }
  | "p" => .ok { s with marks := .slash }
  | "q" => .ok { s with controls := true }
  | "Q" => .ok { s with quoting := .doubled }
  | "quoting-style" => s.quotingOf option.value
  | "r" => .ok { s with reversed := true }
  | "R" => .ok { s with recursive := true }
  | "s" => .ok { s with blocks := true }
  | "S" => .ok { s with order := .size }
  | "sort" => s.orderOf option.value
  | "t" => .ok { s with order := .time }
  | "time" => do
      match ← choiceOf ["atime|access|use", "ctime|status", "mtime|modification", "birth|creation"]
          option.value "--time" with
      | "atime" => return { s with usage := true }
      | _ => return s
  | "time-style" => .ok { s with style := some option.value }
  | "u" => .ok { s with usage := true }
  | "U" => .ok { s with order := .nothing }
  | "v" => .ok { s with order := .version }
  | "w" =>
      match amount "" option.value with
      | .ok width => .ok { s with width }
      | .error _ =>
          let misuse := Misuse.plain ("invalid line width: " ++ cited option.value)
          .error { misuse with status := some 2 }
  | "x" => .ok { s with format := .across }
  | "X" => .ok { s with order := .ending }
  | "zero" => .ok { s with zero := true, format := .single }
  | "1" => .ok { s with format := if s.format = .long then .long else .single }
  | _ => .ok s

end ListSettings

/-- The options of `ls`. -/
def listChoices : String :=
  "a,all b,escape d,directory D,dired --full-time --group-directories-first " ++
    "h,human-readable i,inode k,kibibytes n,numeric-uid-gid G,no-group q,hide-control-chars " ++
    "r,reverse s,size w,width= A,almost-all B,ignore-backups F,classify=? --file-type --si " ++
    "H,dereference-command-line --dereference-command-line-symlink-to-dir --hide= I,ignore= " ++
    "--indicator-style= L,dereference N,literal Q,quote-name --quoting-style= R,recursive " ++
    "--format= --show-control-chars --sort= T,tabsize= --time= --time-style= --zero " ++
    "--color=? --hyperlink=? --block-size= Z,context --author c C f g l m o p S t u U v x X " ++
    "1"

/-! ## Entries -/

/-- A name that is listed, with its node and where that is. -/
structure Entry where
  name : String
  path : String
  number : Nat
  node : Node

/-- A name between double quotes, with escapes. -/
def doubleQuoted (name : String) : String :=
  let shown (c : Char) : List Char :=
    if c = '"' || c = '\\' then ['\\', c] else if isPrintable c then [c] else escapeOf c
  "\"" ++ String.ofList (name.toList.flatMap shown) ++ "\""

/-- A name without quotes, with escapes. -/
def escapedName (name : String) : String :=
  let shown (c : Char) : List Char :=
    if c = ' ' || c = '\\' then ['\\', c] else if isPrintable c then [c] else escapeOf c
  String.ofList (name.toList.flatMap shown)

/-- A name as it is listed. -/
def ListSettings.nameText (s : ListSettings) (name : String) : String :=
  match s.quoting with
  | .plain => if s.controls then name.map fun c => if isPrintable c then c else '?' else name
  | .doubled => doubleQuoted name
  | .escaped => escapedName name
  | .shell => commandForm name
  | .shellAlways => quoted name

/-- The mark behind the name of a node. -/
def ListSettings.mark (s : ListSettings) (node : Node) : String :=
  if s.marks = .none then ""
  else if node.isDirectory then "/"
  else if s.marks = .slash then ""
  else if node.isLink then "@"
  else if node.kindLetter = 'p' then "|"
  else if s.marks = .all && node.isPlain && node.mode &&& 0o111 != 0 then "*" else ""

/-- The ending of a name. -/
def endingOf (name : String) : String :=
  let back := name.toList.reverse.takeWhile (· ≠ '.')
  if back.length = name.length then "" else String.ofList ('.' :: back.reverse)

/-- Whether an entry comes before another one, by what they are ordered by. -/
def ListSettings.compare (s : ListSettings) (a b : Entry) : Ordering :=
  let time (e : Entry) : Int := if s.usage then e.node.used else e.node.changed
  let byName := Ord.compare a.name b.name
  match s.order with
  | .name | .nothing => byName
  | .size => (Ord.compare b.node.size a.node.size).then byName
  | .time => (Ord.compare (time b) (time a)).then byName
  | .ending => (Ord.compare (endingOf a.name) (endingOf b.name)).then byName
  | .version => (compareVersions a.name b.name).then byName
  | .width => (Ord.compare a.name.length b.name.length).then byName

/-- Entries in the order in which they are listed. -/
def ListSettings.arranged (s : ListSettings) (entries : List Entry) : List Entry :=
  let entries := if s.order = .nothing then entries
    else entries.mergeSort fun a b =>
      (if s.reversed then s.compare b a else s.compare a b) != .gt
  if s.foldersFirst then
    entries.filter (fun e => e.node.isDirectory) ++ entries.filter fun e => !e.node.isDirectory
  else entries

/-! ## Columns -/

/-- How many blocks of a thousand bytes a node takes. -/
def blocksOf (node : Node) : Nat :=
  match node.content with
  | .data _ | .tool _ | .directory .. => (node.size + 4095) / 4096 * 4
  | _ => 0

/-- A number of bytes with a letter for its magnitude, rounded up. -/
def humanSize (base n : Nat) : String :=
  if n < base then toString n else go 8 1
where
  /-- Finds the magnitude. -/
  go : Nat → Nat → String
    | 0, _ => toString n
    | k + 1, power =>
        let unit := Nat.pow base power
        let tenths := (n * 10 + unit - 1) / unit
        let whole := (n + unit - 1) / unit
        let letter := ((if base = 1000 then "kMGTPEZY" else "KMGTPEZY").toList.getD (power - 1) '?')
        if tenths < 100 then
          toString (tenths / 10) ++ "." ++ toString (tenths % 10) ++ letter.toString
        else if whole < base then toString whole ++ letter.toString
        else go k (power + 1)

/-- A size as it is listed. -/
def ListSettings.sizeText (s : ListSettings) (n : Nat) : String :=
  match s.human with
  | some base => humanSize base n
  | none => toString n

/-- A number of blocks as it is listed. -/
def ListSettings.blockText (s : ListSettings) (blocks : Nat) : String :=
  match s.human with
  | some base => humanSize base (blocks * 1024)
  | none => toString blocks

/-- The name and the number of the owner of a node. -/
def ownerOf (node : Node) : String × Nat :=
  match node.owner with
  | .system => (Account.root.name, Account.root.number)
  | .user => (Account.user.name, Account.user.number)

/-- The time of a node as it is listed. -/
def ListSettings.timeText (s : ListSettings) (now : Int) (zone : Calendar.Zone) (node : Node) :
    String :=
  let moment := if s.usage then node.used else node.changed
  let halfYear : Int := 31556952 / 2 * 1000000000
  let recent := now - halfYear < moment && moment ≤ now
  let format := match s.style with
    | some "full-iso" => "%Y-%m-%d %H:%M:%S.%N %z"
    | some "long-iso" => "%Y-%m-%d %H:%M"
    | some "iso" => if recent then "%m-%d %H:%M" else "%Y-%m-%d "
    | some style =>
        if style.startsWith "+" then String.ofList (style.toList.drop 1)
        else if recent then "%b %e %H:%M" else "%b %e  %Y"
    | none => if recent then "%b %e %H:%M" else "%b %e  %Y"
  (Calendar.Moment.ofNanoseconds moment zone).text format

/-- The cells of an entry that stand in front of its name. -/
def ListSettings.cells (s : ListSettings) (all : Files) (zone : Calendar.Zone) (e : Entry) :
    List (Bool × String) :=
  let (owner, id) := ownerOf e.node
  let who := if s.numeric then toString id else owner
  let size := if e.node.isDevice then "1, 3" else s.sizeText e.node.size
  (if s.numbers then [(true, toString e.number)] else []) ++
    (if s.blocks then [(true, s.blockText (blocksOf e.node))] else []) ++
    if s.format = .long then
      [(false, e.node.kindLetter.toString ++ Node.rightsText e.node.mode),
        (true, toString (all.nameCount e.number))] ++
      (if s.owner then [(s.numeric, who)] else []) ++
      (if s.group then [(s.numeric, who)] else []) ++
      [(true, size), (true, s.timeText all.now zone e.node)]
    else []

/-- The name of an entry with its mark, and with where it leads to if that is told. -/
def ListSettings.label (s : ListSettings) (all : Files) (start : Nat) (e : Entry) : String :=
  let name := s.nameText e.name
  match e.node.target?, s.format with
  | some target, .long =>
      let there := (all.findNode start e.path).toOption
      name ++ " -> " ++ s.nameText target ++ (there.map s.mark |>.getD "")
  | _, _ => name ++ s.mark e.node

/-- The widths of the columns of some rows. -/
def widthsOf (rows : List (List (Bool × String))) : List Nat :=
  rows.foldl (fun widths row =>
    let lengths := row.map fun cell => cell.2.length
    if widths.isEmpty then lengths else widths.zipWith max lengths) []

/-- A row of cells, each as wide as its column. -/
def rowText (widths : List Nat) (row : List (Bool × String)) : String :=
  String.join <| (row.zip widths).map fun ((right, text), width) =>
    (if right then String.ofList (text.toList.leftpad width ' ') else filled width text) ++ " "

/-- Texts in columns, downwards or across, in as few lines as fit. -/
def inColumns (width : Nat) (across : Bool) (texts : List String) : String :=
  let count := texts.length
  let fits (columns : Nat) : Bool × Nat × List Nat :=
    let rows := (count + columns - 1) / columns
    let column (i : Nat) : Nat := if across then i % columns else i / rows
    let widths := (List.range columns).map fun k =>
      ((texts.zipIdx.filter fun entry => column entry.2 = k).map fun entry =>
        entry.1.length).foldl max 0
    let total := sumOf (widths.map (· + 2)) - 2
    (total < width, rows, widths)
  let most := max 1 (min count (width / 3))
  let columns := (((List.range most).reverse.map (· + 1)).find? fun columns =>
    columns = 1 || ((fits columns).1 && (across || (count + (fits columns).2.1 - 1) /
      (fits columns).2.1 = columns))).getD 1
  let (_, rows, widths) := fits columns
  let line (r : Nat) : String :=
    let cells := (List.range columns).filterMap fun k =>
      let i := if across then r * columns + k else k * rows + r
      (texts[i]?).map fun text => (text, k)
    let last := cells.length - 1
    String.join (cells.map fun (text, k) =>
      if k = last then text else filled (widths.getD k 0 + 2) text) ++ "\n"
  String.join ((List.range rows).map line)

/-- Texts with commas between them, on lines of a width. -/
def withCommas (width : Nat) : (column : Nat) → List String → String
  | _, [] => "\n"
  | column, [text] =>
      if column != 0 && width ≤ column + text.length then "\n" ++ text ++ "\n" else text ++ "\n"
  | column, text :: rest =>
      let broken := column != 0 && width ≤ column + text.length + 2
      let start := if broken then 0 else column
      (if broken then "\n" else "") ++ text ++ "," ++
        (match rest with
          | next :: _ => if width ≤ start + text.length + 2 + next.length + 1 then "" else " "
          | [] => "") ++
        withCommas width (start + text.length + 2) rest

/-- Writes entries. -/
def ListSettings.write (s : ListSettings) (entries : List Entry) : Run Unit := do
  let all ← files
  let start := (← shell).directory
  let zone ← zoneOfUser
  let rows := entries.map (s.cells all zone)
  let widths := widthsOf rows
  let lines := entries.zip rows |>.map fun (e, row) =>
    rowText widths row ++ s.label all start e
  match s.format with
  | .single | .long =>
      for line in lines do emit (line ++ if s.zero then "\x00" else "\n")
  | .columns => unless lines.isEmpty do
      emit (if s.width = 0 then "  ".intercalate lines ++ "\n" else inColumns s.width false lines)
  | .across => unless lines.isEmpty do
      emit (if s.width = 0 then "  ".intercalate lines ++ "\n" else inColumns s.width true lines)
  | .commas => unless lines.isEmpty do emit (withCommas s.width 0 lines)

/-! ## Directories -/

/-- The entry of a path. -/
def entryAt (s : ListSettings) (operand : Bool) (name path : String) :
    Run (Except FileFault Entry) := do
  let looksThrough := s.follows ||
    (operand && (s.followsOperands || (s.format ≠ .long && !s.folders && s.marks ≠ .all)))
  let found ← lookAt path looksThrough
  let entry (found : Nat × Node) : Entry := { name, path, number := found.1, node := found.2 }
  match found with
  | .ok found => return .ok (entry found)
  | .error fault =>
      if s.follows && !operand then return .error fault
      else
        match ← lookAt path false with
        | .ok found => return .ok (entry found)
        | .error _ => return .error fault

/-- Whether a name is listed. -/
def ListSettings.shows (s : ListSettings) (name : String) : Bool :=
  let dotted := name.startsWith "."
  (!dotted || s.dots || (s.hidden && name ≠ "." && name ≠ "..")) &&
    !s.ignored.any fun pattern =>
      (!dotted || pattern.startsWith ".") &&
        Pattern.fits (Pattern.ofText true pattern) name.toList

/-- Lists a directory, and those in it if that is wanted: whether all of it could be read. -/
def listDirectory (self : String) (s : ListSettings) (headed : Bool) :
    Nat → (first : Bool) → Entry → Run Bool
  | 0, _, _ => return true
  | n + 1, first, folder => do
      if !folder.node.allows .read then
        say self ("cannot open directory " ++ quoted folder.path ++ ": " ++
          FileFault.permissionDenied.words)
        return false
      if headed then
        emit ((if first then "" else "\n") ++ s.nameText folder.path ++ ":\n")
      let names := (".." :: "." :: folder.node.names).filter s.shows
      let names := if names.take 2 = ["..", "."] then "." :: ".." :: names.drop 2 else names
      let found ← names.mapM fun name => do
        match ← entryAt s false name (inside folder.path name) with
        | .ok e => return some e
        | .error fault =>
            say self ("cannot access " ++ quoted (inside folder.path name) ++ ": " ++ fault.words)
            return none
      let entries := s.arranged (found.filterMap id)
      if s.format = .long || s.blocks then
        emit ("total " ++ s.blockText (sumOf (entries.map fun e => blocksOf e.node)) ++ "\n")
      s.write entries
      let mut good := found.all Option.isSome
      if s.recursive then
        for e in entries do
          if e.node.isDirectory && e.name ≠ "." && e.name ≠ ".." then
            let fine ← listDirectory self s headed n false e
            good := good && fine
      return good

/-- Lists files and what is in directories. -/
def listFiles (usual : ListFormat) : Tool := fun self arguments =>
  withSettings listChoices { format := usual } ListSettings.step self arguments
    (fun s operands => do
      let operands := if operands.isEmpty then ["."] else operands
      let found ← operands.mapM fun path => do
        match ← entryAt s true path path with
        | .ok e => return some e
        | .error fault =>
            say self ("cannot access " ++ quoted path ++ ": " ++ fault.words)
            return none
      let present := s.arranged (found.filterMap id)
      let isTree (e : Entry) : Bool := e.node.isDirectory && !s.folders
      let plain := present.filter fun e => !isTree e
      s.write plain
      let headed := 1 < operands.length || s.recursive
      let mut good := true
      for (e, k) in (present.filter isTree).zipIdx do
        let fine ← listDirectory self s headed deepest (k = 0 && plain.isEmpty) e
        good := good && fine
      finish (if !found.all Option.isSome then 2 else if good then 0 else
        if operands.length = 1 && !s.recursive then 2 else 1)) 2

/-- Lists files, one on a line. -/
def list : Tool := listFiles .single

/-- Lists files in columns, with escapes in their names. -/
def listColumns : Tool := fun self words => listFiles .columns self ("-b" :: words)

/-- Lists files with all that is known about them, with escapes in their names. -/
def listLong : Tool := fun self words => listFiles .long self ("-b" :: words)

end WasmBinary.Machine.Script.Tool
