/-
  What the name of a command means.

  A name means a function, a builtin of the shell, or a program.  Special builtins come before
  functions, and functions before other builtins.  A name with a slash is the path of a program;
  any other program is looked for in the directories of the search path, in order.
-/
import WasmBinary.Machine.Script.Process

namespace WasmBinary.Machine.Script

/-- What the name of a command means. -/
inductive Meaning
  | special
  | function (body : Command)
  | builtin
  | program (path : String)
  /-- There is no program that could be run, for some reason. -/
  | nothing (fault : FileFault)

namespace Meaning

open Run

/-- The builtins that a mistake in their use ends the shell with, and that keep the variables that
    are assigned in front of them. -/
def specialNames : List String :=
  [".", ":", "break", "continue", "eval", "exec", "exit", "export", "local", "readonly", "return",
    "set", "shift", "times", "trap", "unset"]

/-- The other builtins. -/
def builtinNames : List String :=
  ["[", "alias", "bg", "cd", "chdir", "command", "echo", "false", "fg", "getopts", "hash", "jobs",
    "kill", "printf", "pwd", "read", "test", "true", "type", "ulimit", "umask", "unalias", "wait"]

/-- The builtins whose arguments can be assignments, which are not split. -/
def declaringNames : List String := ["alias", "export", "local", "readonly"]

/-- Where programs usually are. -/
def standardPath : String := "/usr/local/sbin:/usr/local/bin:/usr/sbin:/usr/bin:/sbin:/bin"

/-- The directories of a search path. -/
def directoriesOf (path : String) : List String := path.splitOn ":"

/-- The directories in which programs are looked for.  A shell whose search path was taken away has
    none; other programs have a path of their own then. -/
def searchPath : Run (List String) := do
  match ← valueOf? "PATH" with
  | some path => return directoriesOf path
  | none => return if (← shell).arranges then [] else ["/bin", "/usr/bin"]

/-- The path of a name in a directory of the search path. -/
def inDirectory (directory name : String) : String :=
  if directory = "" then name else directory ++ "/" ++ name

/-- The path of the program of a name in some directories, from some place on, and its place.  What
    has the name and cannot be run is passed by. -/
def programAlong (search : List String) (name : String) (first : Nat) :
    Run (Except FileFault (String × Nat)) := do
  let s ← get
  let look (result : Except FileFault (String × Nat)) (entry : String × Nat) :
      Except FileFault (String × Nat) :=
    match result with
    | .ok found => .ok found
    | .error fault =>
        let path := inDirectory entry.1 name
        match s.world.files.findNode s.shell.directory path with
        | .ok node => if node.isExecutable then .ok (path, entry.2) else .error .permissionDenied
        | .error .notFound | .error .notADirectory => .error fault
        | .error other => .error other
  return (search.zipIdx.drop first).foldl look (.error .notFound)

/-- The path of the program of a name.  The shell remembers where it has found it. -/
def programOf (name : String) : Run (Except FileFault String) := do
  let known := (← shell).hashed.lookup name
  match ← programAlong (← searchPath) name ((known.map Remembered.place).getD 0) with
  | .error fault => return .error fault
  | .ok (path, place) =>
      modifyShell fun s =>
        let found : Remembered := { place }
        let hashed := match known with
          | none => s.hashed ++ [(name, found)]
          | some _ => s.hashed.map fun entry => if entry.1 = name then (name, found) else entry
        { s with hashed }
      return .ok path

/-- The path of the program of a name where programs usually are. -/
def usualProgram (name : String) : Run (Except FileFault String) := do
  return (← programAlong (directoriesOf standardPath) name 0).map (·.1)

/-- What a name means, if functions are asked for or not, and if programs are looked for where they
    usually are or not. -/
def ofName (name : String) (functions : Bool := true) (usual : Bool := false) : Run Meaning := do
  if specialNames.contains name then return special
  match (← shell).functions.lookup name, functions with
  | some body, true => return function body
  | _, _ =>
      if builtinNames.contains name then return builtin
      else if name.contains '/' then return .program name
      else
        match ← if usual then usualProgram name else programOf name with
        | .ok path => return .program path
        | .error fault => return nothing fault

/-- How a name is explained, if it means anything. -/
def explanation? (usual : Bool) (name : String) : Run (Option String) := do
  if keywords.contains name then return some "a shell keyword"
  let s ← shell
  if let some text := s.aliases.lookup name then return some ("an alias for " ++ text)
  let tracked := !usual && (s.hashed.lookup name).isSome
  match ← ofName name true usual with
  | special => return some "a special shell builtin"
  | function _ => return some "a shell function"
  | builtin => return some "a shell builtin"
  | program path =>
      let there := ((← files).findNode (← shell).directory path).toOption.isSome
      if there then return some (if tracked then "a tracked alias for " ++ path else path)
      else return none
  | nothing _ => return none

/-- What is run for a name, if it means anything. -/
def commandText? (usual : Bool) (name : String) : Run (Option String) := do
  let s ← shell
  match s.aliases.lookup name, keywords.contains name with
  | some text, false =>
      let inside := "'\"'\"'".intercalate (text.splitOn "'")
      return some ("alias " ++ name ++ "=" ++ "'" ++ inside ++ "'")
  | _, _ =>
      match ← explanation? usual name with
      | none => return none
      | some _ =>
          match ← ofName name true usual with
          | program path => return some (if keywords.contains name then name else path)
          | _ => return some name

end Meaning

/-! ## Tables -/

/-- The place of a name in a table of so many rows: the first character counts sixteen times, and
    every character once. -/
def rowOf (rows : Nat) (name : String) : Nat :=
  let first := (name.toList.head?.map Char.toNat).getD 0
  (first * 16 + sumOf (name.toList.map Char.toNat)) % Nat.pow 2 15 % rows

/-- Entries in the order in which a table of so many rows has them. -/
def inTableOrder {α : Type} (rows : Nat) (entries : List (String × α)) : List (String × α) :=
  (List.range rows).flatMap fun row => entries.filter fun entry => rowOf rows entry.1 = row

end WasmBinary.Machine.Script
