/-
  The tools that tell how files differ.

  1. **Files** are compared as texts, unless they have characters that no text has.

  2. **Directories** are compared name by name.  Names that only one of them has are told, or stand
     for empty files in the other one.

  3. **The status** tells whether there are differences, or trouble.
-/
import WasmBinary.Machine.Script.Tool.Dates
import WasmBinary.Machine.Script.Tool.Differing.Styles
import WasmBinary.Machine.Script.Tool.Paths

namespace WasmBinary.Machine.Script.Tool

open Run

namespace Differing

/-- What a name stands for. -/
inductive Subject
  | input
  | found (number : Nat) (node : Node)
  /-- Nothing, which counts as an empty file or as an empty directory. -/
  | absent

namespace Subject

/-- Whether it is a directory. -/
def isDirectory : Subject → Bool
  | found _ node => node.isDirectory
  | _ => false

/-- Whether it is nothing. -/
def isAbsent : Subject → Bool
  | absent => true
  | _ => false

/-- Whether two of them are the same file. -/
def isSame : Subject → Subject → Bool
  | found i _, found j _ => i = j
  | input, input => true
  | _, _ => false

/-- What kind of file it is, in words. -/
def kind : Subject → String
  | found _ node =>
      match node.content with
      | .data bytes => if bytes.size = 0 then "regular empty file" else "regular file"
      | .tool _ => "regular file"
      | .device _ => "character special file"
      | .link _ => "symbolic link"
      | .queue => "fifo"
      | .directory .. => "directory"
  | _ => "regular file"

/-- Whether it is a plain file, or nothing at all. -/
def isPlain : Subject → Bool
  | found _ node => node.isPlain
  | _ => true

end Subject

/-- What a name stands for, or why it stands for nothing. -/
def subjectOf (s : Settings) (name : String) : Run (Except FileFault Subject) := do
  if name = "-" then return .ok .input
  else return (← lookAt name s.follows).map fun (number, node) => .found number node

/-- The text of what a name stands for. -/
def textOf (name : String) : Subject → Run (Except FileFault String)
  | .absent => return .ok ""
  | _ => readOperand name .whole

/-- The heading of a file: its label, or its name and when it was changed. -/
def headingOf (s : Settings) (place : Nat) (name : String) (subject : Subject) : Run String := do
  match s.labels[place]? with
  | some label => return label
  | none =>
      let now := (← files).now
      let moment := match subject with
        | .found _ node => node.changed
        | .input => now
        | .absent => 0
      let format := if s.style = some .context then "%a %b %e %H:%M:%S %Y"
        else "%Y-%m-%d %H:%M:%S.%N %z"
      let moment := Calendar.Moment.ofNanoseconds moment (← zoneOfUser)
      return name ++ "\t" ++ moment.text format

/-- Compares two texts: the status. -/
def compareTexts (s : Settings) (nested : Bool) (a b : String × Subject) (first second : String) :
    Run Nat := do
  let style := s.style.getD .normal
  let whole := style = .columns || style matches .merged _
  let names := a.1 ++ " and " ++ b.1
  let isBinary (text : String) : Bool := text.toList.contains '\x00'
  let (status, text) ←
    if first = second && !(whole && !s.brief) then pure (0, "")
    else if !s.asText && (isBinary first || isBinary second) then
      pure (if first = second then (0, "") else
        (1, (if s.brief then "Files " else "Binary files ") ++ names ++ " differ\n"))
    else do
      let left := Side.ofText a.1 first s.stripsReturns
      let right := Side.ofText b.1 second s.stripsReturns
      let changes := changesOf s left right
      let counts := changes.any fun c => !c.isSkipped s left right
      if s.brief then
        pure (if counts then (1, "Files " ++ names ++ " differ\n") else (0, ""))
      else if !counts && !whole then pure (0, "")
      else do
        let left := { left with heading := ← headingOf s 0 a.1 a.2 }
        let right := { right with heading := ← headingOf s 1 b.1 b.2 }
        let title := if nested && counts then
            " ".intercalate ("diff" :: s.words.map shown ++ [shown a.1, shown b.1]) ++ "\n"
          else ""
        pure (if counts then 1 else 0, title ++ changesText s left right changes)
  emit text
  if status = 0 && s.reports then emit ("Files " ++ names ++ " are identical\n")
  let unended : List String := if s.brief || first = second then [] else
    [(a.1, first), (b.1, second)].filterMap fun (name, text) =>
      if text ≠ "" && !text.endsWith "\n" then some name else none
  if style = .script || style = .forward then
    for name in unended do say s.self (name ++ ": No newline at end of file\n")
    return if unended.isEmpty then status else 2
  return status

/-- Compares what two names stand for: the status. -/
def compareNames (s : Settings) : Nat → (nested : Bool) → String → String → Run Nat
  | 0, _, _, _ => return 2
  | n + 1, nested, a, b => do
      let fill (fills : Bool) (other : Except FileFault Subject) (one : Except FileFault Subject) :
          Except FileFault Subject :=
        match one, other with
        | .error .notFound, .ok _ => if fills then .ok .absent else one
        | _, _ => one
      let first ← subjectOf s a
      let second ← subjectOf s b
      let x := fill (s.fillsIn || s.fillsFirst) second first
      let y := fill s.fillsIn first second
      match x, y with
      | .ok x, .ok y =>
          if x.isDirectory || y.isDirectory then
            if (x.isDirectory || x.isAbsent) && (y.isDirectory || y.isAbsent) then
              if x.isSame y then return 0
              else if nested && !s.recursive then
                emit ("Common subdirectories: " ++ a ++ " and " ++ b ++ "\n")
                return 0
              else compareFolders n a b x y
            else if nested then mismatch a b x y
            else if a = "-" || b = "-" then
              say s.self "cannot compare '-' to a directory"
              return 2
            else if x.isDirectory then compareNames s n nested (inside a (baseName b)) b
            else compareNames s n nested a (inside b (baseName a))
          else if nested && !(x.isPlain && y.isPlain) then mismatch a b x y
          else if x.isSame y && !(s.style = some .columns) then
            if s.reports then emit ("Files " ++ a ++ " and " ++ b ++ " are identical\n")
            return 0
          else
            match ← textOf a x, ← textOf b y with
            | .ok first, .ok second => compareTexts s nested (a, x) (b, y) first second
            | first, second =>
                tellFaults [(a, first.map fun _ => ()), (b, second.map fun _ => ())]
                return 2
      | x, y =>
          tellFaults [(a, x.map fun _ => ()), (b, y.map fun _ => ())]
          return 2
where
  /-- Says why names cannot be compared. -/
  tellFaults (results : List (String × Except FileFault Unit)) : Run Unit := do
    for (name, result) in results do
      if let .error fault := result then say s.self (name ++ ": " ++ fault.words)
  /-- Tells that files are not of the same kind. -/
  mismatch (a b : String) (x y : Subject) : Run Nat := do
    emit ("File " ++ a ++ " is a " ++ x.kind ++ " while file " ++ b ++ " is a " ++ y.kind ++ "\n")
    return 1
  /-- Compares the names in two directories. -/
  compareFolders (n : Nat) (a b : String) (x y : Subject) : Run Nat := do
    let namesIn (path : String) (subject : Subject) : Run (Except FileFault (List String)) := do
      match subject with
      | .found _ node =>
          if !node.allows .read then
            say s.self (path ++ ": " ++ FileFault.permissionDenied.words)
            return .error .permissionDenied
          else return .ok node.names
      | _ => return .ok []
    match ← namesIn a x, ← namesIn b y with
    | .ok first, .ok second =>
        let counts (name : String) : Bool := !s.excluded.any fun pattern =>
          Pattern.fits (Pattern.ofText true pattern) name.toList
        let names := ((first ++ second.filter fun name => !first.contains name).filter counts)
        let mut status := 0
        for name in names.mergeSort (· ≤ ·) do
          let here := first.contains name
          let there := second.contains name
          let other ← if here && !there && !s.fillsIn then do
              emit ("Only in " ++ a ++ ": " ++ name ++ "\n")
              pure 1
            else if there && !here && !(s.fillsIn || s.fillsFirst) then do
              emit ("Only in " ++ b ++ ": " ++ name ++ "\n")
              pure 1
            else compareNames s n true (inside a name) (inside b name)
          status := max status other
        return status
    | _, _ => return 2

/-- The words that are no operands. -/
def optionWords : (operands words : List String) → List String
  | _, [] => []
  | operands, word :: rest =>
      if operands.head? = some word then optionWords operands.tail rest
      else word :: optionWords operands rest

end Differing

/-- Tells how files differ. -/
def differences : Tool := fun self arguments => do
  let u := usageFor Differing.Settings.choices arguments
  if u.mistake.isNone && u.options.any fun option => option.key = "v" || option.key = "version" then
    emit "diff (GNU diffutils) 3.10\n"
    return ← finish 0
  withSettings Differing.Settings.choices { self } Differing.Settings.add self arguments
    (fun s operands => do
      let s := { s.complete with words := Differing.optionWords operands arguments }
      let misuse (m : Misuse) : Run Unit := m.report self 2 true
      let compare (pairs : List (String × String)) : Run Unit := do
        let mut status := 0
        for (a, b) in pairs do status := max status (← Differing.compareNames s 200 false a b)
        finish status
      match s.origin, s.target, operands with
      | some a, none, operands => compare (operands.map fun b => (a, b))
      | none, some b, operands => compare (operands.map fun a => (a, b))
      | some _, some _, _ => misuse (.plain "--from-file and --to-file both specified")
      | none, none, [a, b] => compare [(a, b)]
      | none, none, _ :: _ :: extra :: _ => misuse (.hinted ("extra operand '" ++ extra ++ "'"))
      | none, none, _ =>
          misuse (.hinted ("missing operand after '" ++ (arguments.getLast?).getD self ++ "'")))
    2 true

/-- The options of the tool that shows files side by side. -/
def sideChoices : String :=
  " ".intercalate
    [ "--diff-program= t,expand-tabs --help W,ignore-all-space B,ignore-blank-lines",
      "i,ignore-case I,ignore-matching-lines= b,ignore-space-change E,ignore-tab-expansion",
      "Z,ignore-trailing-space l,left-column d,minimal o,output= H,speed-large-files",
      "--strip-trailing-cr s,suppress-common-lines --tabsize= a,text --version w,width= v" ]

/-- The option that asks for the same where differences are told. -/
def ofSideOption (option : Given) : List String :=
  match option.key with
  | "l" => ["--left-column"]
  | "s" => ["--suppress-common-lines"]
  | "w" => ["-W", option.value]
  | "W" => ["-w"]
  | "I" => ["-I", option.value]
  | "tabsize" => ["--tabsize=" ++ option.value]
  | key => if key.length = 1 then ["-" ++ key] else ["--" ++ key]

/-- Shows two files side by side. -/
def sideBySide : Tool := fun self arguments =>
  withSettings sideChoices ([] : List Given) (fun given option => .ok (given ++ [option])) self
    arguments (fun given operands => do
      let misuse (m : Misuse) : Run Unit := m.report self 2 true
      match operands with
      | [a, b] =>
          let words := given.flatMap ofSideOption
          differences "diff" ("-y" :: words ++ ["--", a, b])
      | _ :: _ :: extra :: _ => misuse (.hinted ("extra operand '" ++ extra ++ "'"))
      | [a] => misuse (.hinted ("missing operand after '" ++ a ++ "'"))
      | [] => misuse (.hinted ("missing operand after '" ++ self ++ "'")))
    2 true

end WasmBinary.Machine.Script.Tool
