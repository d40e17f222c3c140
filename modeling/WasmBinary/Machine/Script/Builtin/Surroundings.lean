/-
  Builtins for what surrounds a shell: directories, signals, names and texts.
-/
import WasmBinary.Machine.Script.Builtin.Jobs
import WasmBinary.Machine.Script.Condition
import WasmBinary.Machine.Script.Format
import WasmBinary.Machine.Script.Lookup
import WasmBinary.Machine.Script.Tool.Modes

namespace WasmBinary.Machine.Script.Builtin

open Run

/-! ## Texts -/

/-- Writes the arguments with blanks between them. -/
def echo (arguments : List String) : Run Unit := do
  let (bare, words) := match arguments with
    | "-n" :: rest => (true, rest)
    | words => (false, words)
  emit (pieces bare words)
  finish 0
where
  /-- The texts of words, up to where one of them ends all that is written. -/
  pieces (bare : Bool) : List String → String
    | [] => if bare then "" else "\n"
    | [word] =>
        let (text, ended) := Escape.resolve word
        if ended || bare then text else text ++ "\n"
    | word :: rest =>
        let (text, ended) := Escape.resolve word
        if ended then text else text ++ " " ++ pieces bare rest

/-- Writes the arguments as a format asks for. -/
def printf (arguments : List String) : Run Unit := do
  match ← options [] arguments with
  | (_, []) => abort "usage: printf format [arg ...]"
  | (_, format :: rest) =>
      let printed := Format.print format rest
      printed.misfits.forM fun misfit => complain misfit.message
      printed.failure.forM complain
      emit printed.text
      if printed.failure.isSome then
        finish 2
        throw .failed
      finishWith printed.misfits.isEmpty

/-- Succeeds where a condition holds. -/
def test (arguments : List String) : Run Unit := do
  finishWith (← Condition.holds arguments)

/-- The same, between brackets.  Only the first character of the word that closes them counts. -/
def bracket (arguments : List String) : Run Unit := do
  if arguments.getLast?.any (String.startsWith · "]") then
    test arguments.dropLast
  else abort "missing ]"

/-! ## Directories -/

/-- The names that a path leads through, behind those that lead to where it starts. -/
def namesOf (start : List String) (path : String) : List String :=
  (path.splitOn "/").foldl (fun names name =>
    if name = "" || name = "." then names
    else if name = ".." then names.dropLast
    else names ++ [name]) start

/-- The front of a path from the root on.  Two slashes stay two. -/
def rootOf (path : String) : String :=
  if path.startsWith "//" && !path.startsWith "///" then "//" else "/"

/-- Gives a variable that programs get a value. -/
def assignExported (name value : String) : Run Unit := do
  assign name value
  if let some v ← entryOf? name then putVariable name { v with exported := true }

/-- The paths that a directory may have, and whether its name alone does not tell which. -/
def candidates (target : String) : Run (List (String × Bool)) := do
  let front := String.ofList (target.toList.takeWhile (· ≠ '/'))
  let search ← valueOf? "CDPATH"
  let folders := if ["", ".", ".."].contains front then []
    else (search.map (·.splitOn ":")).getD []
  let found := folders.map fun folder => (Meaning.inDirectory folder target, folder != "")
  return found ++ [(target, false)]

/-- Goes to a directory.  Its path is made from the names that led there, or from where it is. -/
def change (arguments : List String) : Run Unit := do
  let (letters, words) ← options [ 'L', 'P' ] arguments
  let target ← match words.head? with
    | some "-" => pure ((← valueOf? "OLDPWD").getD "")
    | some word => pure word
    | none => pure ((← valueOf? "HOME").getD "")
  let s ← get
  let files := s.world.files
  let fits (path : String) : Bool :=
    ((files.find s.shell.directory (if path = "" then "." else path)).toOption).any
      files.isDirectory
  let paths ← candidates target
  let (path, shows) := (paths.find? fun entry => fits entry.1).getD (target, false)
  let here := if path.startsWith "/" then [] else namesOf [] s.shell.directoryPath
  let logical := rootOf (if path.startsWith "/" then path else s.shell.directoryPath) ++
    "/".intercalate (namesOf here path)
  let place := if letters.getLast? = some 'P' then
      files.find s.shell.directory (if path = "" then "." else path)
    else files.find 0 logical
  match place with
  | .ok i =>
      let enters := (files.node? i).any fun node => node.isDirectory && node.allows .run
      if !enters then abort ("can't cd to " ++ target)
      let directoryPath := if letters.getLast? = some 'P' then files.pathOf i else logical
      assignExported "OLDPWD" s.shell.directoryPath
      modifyShell fun s =>
        let hashed := s.hashed.map fun entry => (entry.1, { entry.2 with stale := true })
        { s with directory := i, directoryPath, hashed }
      assignExported "PWD" directoryPath
      if shows || words.head? = some "-" then emit (directoryPath ++ "\n")
      finish 0
  | .error _ => abort ("can't cd to " ++ target)

/-- Tells the directory. -/
def tellDirectory (arguments : List String) : Run Unit := do
  let (letters, _) ← options [ 'L', 'P' ] arguments
  let s ← get
  let path := if letters.getLast? = some 'P' then s.world.files.pathOf s.shell.directory
    else s.shell.directoryPath
  emit (path ++ "\n")
  finish 0

/-- A mode in octal. -/
def octalText (mode : Nat) : String :=
  String.ofList ((Nat.toDigits 8 mode).leftpad 4 '0')

/-- What a mode allows, for the owner, the group and all others. -/
def rightsText (mode : Nat) : String :=
  let rights (n : Nat) : String := String.ofList <|
    (if n &&& 4 ≠ 0 then ['r'] else []) ++ (if n &&& 2 ≠ 0 then ['w'] else []) ++
      (if n &&& 1 ≠ 0 then ['x'] else [])
  "u=" ++ rights (mode / 64 % 8) ++ ",g=" ++ rights (mode / 8 % 8) ++ ",o=" ++ rights (mode % 8)

/-- Tells or sets the mode that is taken off new files. -/
def mask (arguments : List String) : Run Unit := do
  let (letters, words) ← options [ 'S' ] arguments
  match words with
  | [] =>
      let mask := (← get).world.mask
      emit ((if letters.isEmpty then octalText mask else rightsText (0o777 - mask)) ++ "\n")
  | word :: _ =>
      if (word.toList.head?.map Char.isDigit).getD false then
        if !word.all Escape.isOctal then abort ("Illegal number: " ++ word)
        else
          let mask := Nat.ofDigitChars 8 word.toList 0
          modifyWorld fun w => { w with mask := mask % 512 }
      else
        let rights := 0o777 - (← get).world.mask
        match Tool.modeAfter 0 word rights with
        | some rights => modifyWorld fun w => { w with mask := 0o777 - rights % 512 }
        | none => abort ("Illegal mode: " ++ word)
  finish 0

/-! ## Names -/

/-- Shows an alias. -/
def showAlias (entry : String × String) : Run Unit :=
  emit (entry.1 ++ "=" ++ quoted entry.2 ++ "\n")

/-- Makes or shows aliases. -/
def aliases (arguments : List String) : Run Unit := do
  if arguments.isEmpty then
    for entry in inTableOrder 39 (← shell).aliases do showAlias entry
    finish 0
  else
    let results ← arguments.mapM fun word => do
      let aliases := (← shell).aliases
      let name := match word.toList with
        | [] => []
        | c :: rest => c :: rest.takeWhile (· ≠ '=')
      if name.length < word.length then
        let name := String.ofList name
        let text := String.ofList (word.toList.drop (name.length + 1))
        let aliases := if (aliases.lookup name).isSome then
            aliases.map fun entry => if entry.1 = name then (name, text) else entry
          else aliases ++ [(name, text)]
        modifyShell fun s => { s with aliases }
        return true
      else
        match aliases.lookup word with
        | some text =>
            showAlias (word, text)
            return true
        | none =>
            tell ("alias: " ++ word ++ " not found\n")
            return false
    finishWith (results.all id)

/-- Takes aliases away. -/
def unalias (arguments : List String) : Run Unit := do
  let (letters, words) ← options [ 'a' ] arguments
  if letters.contains 'a' then
    modifyShell fun s => { s with aliases := [] }
    finish 0
  else
    let results ← words.mapM fun name => do
      let there := ((← shell).aliases.lookup name).isSome
      unless there do tell ("unalias: " ++ name ++ " not found\n")
      modifyShell fun s =>
        { s with aliases := s.aliases.filter fun entry => entry.1 ≠ name }
      return there
    finishWith (results.all id)

/-- Tells, forgets or looks for the places of programs. -/
def hash (arguments : List String) : Run Unit := do
  let (letters, words) ← options [ 'r' ] arguments
  if letters.contains 'r' then
    modifyShell fun s => { s with hashed := [] }
    finish 0
  else if words.isEmpty then
    let search ← Meaning.searchPath
    for (name, known) in inTableOrder 31 (← shell).hashed do
      let path := Meaning.inDirectory (search.getD known.place "") name
      emit (path ++ (if known.stale then "*\n" else "\n"))
    finish 0
  else
    let results ← words.mapM fun name => do
      modifyShell fun s => { s with hashed := s.hashed.filter fun entry => entry.1 ≠ name }
      match ← Meaning.ofName name with
      | .nothing fault =>
          complain (name ++ ": " ++ if fault = .notFound then "not found" else fault.words)
          return false
      | _ => return true
    finishWith (results.all id)

/-! ## Limits -/

/-- Tells or sets limits. -/
def limit (arguments : List String) : Run Unit := do
  let known := [ 't', 'f', 'd', 's', 'c', 'm', 'l', 'p', 'n', 'v', 'w', 'r' ]
  let (letters, words) ← options ([ 'H', 'S', 'a' ] ++ known) arguments
  let letter := ((letters.filter fun c => known.contains c).getLast?).getD 'f'
  let current := ((← shell).limits.lookup letter).getD "unlimited"
  match words with
  | [] =>
      emit (current ++ "\n")
      finish 0
  | [value] =>
      if value ≠ "unlimited" && !(value ≠ "" && value.all Char.isDigit) then abort "bad number"
      let allowed := current = "unlimited" ||
        (value ≠ "unlimited" && value.toNat?.getD 0 ≤ current.toNat?.getD 0)
      if !allowed then abort "error setting limit (Operation not permitted)"
      let value := if value = "unlimited" then value else toString (value.toNat?.getD 0)
      modifyShell fun s =>
        { s with limits := (letter, value) :: s.limits.filter fun entry => entry.1 ≠ letter }
      finish 0
  | _ => abort "too many arguments"

/-- Explains what a name means, if it means anything. -/
def explainName (usual : Bool) (name : String) : Run Bool := do
  match ← Meaning.explanation? usual name with
  | some explanation =>
      emit (name ++ " is " ++ explanation ++ "\n")
      return true
  | none =>
      emit (name ++ ": not found\n")
      return false

/-- Explains what names mean. -/
def explain (arguments : List String) : Run Unit := do
  let results ← arguments.mapM (explainName false)
  finish (if results.all id then 0 else 127)

/-- Explains what a name means, or tells what is run for it. -/
def tellMeaning (arguments : List String) : Run Unit := do
  let (letters, names) ← options [ 'p', 'v', 'V' ] arguments
  let usual := letters.contains 'p'
  match names with
  | [] => finish 0
  | name :: _ =>
      if letters.contains 'V' then finish (if ← explainName usual name then 0 else 127)
      else if letters.contains 'v' then
        match ← Meaning.commandText? usual name with
        | some text =>
            emit (text ++ "\n")
            finish 0
        | none => finish 127
      else finish 0

/-! ## The table -/

/-- The builtin of a name, apart from those that run commands. -/
def ofName? (name : String) : Option (List String → Run Unit) :=
  match name with
  | ":" | "true" => some fun _ => finish 0
  | "alias" => some aliases
  | "unalias" => some unalias
  | "hash" => some hash
  | "jobs" => some tellJobs
  | "bg" | "fg" => some moveJob
  | "false" => some fun _ => finish 1
  | "echo" => some echo
  | "printf" => some printf
  | "test" => some test
  | "[" => some bracket
  | "cd" | "chdir" => some change
  | "pwd" => some tellDirectory
  | "umask" => some mask
  | "trap" => some trap
  | "kill" => some kill
  | "type" => some explain
  | "export" => some exportNames
  | "readonly" => some fixNames
  | "unset" => some unset
  | "local" => some localNames
  | "set" => some set
  | "shift" => some shift
  | "read" => some read
  | "getopts" => some nextOption
  | "times" => some fun _ => do
      emit "0m0.000000s 0m0.000000s\n0m0.000000s 0m0.000000s\n"
      finish 0
  | "ulimit" => some limit
  | _ => none

end WasmBinary.Machine.Script.Builtin
