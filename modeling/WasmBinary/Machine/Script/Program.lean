/-
  Programs and the processes that they run in.

  1. **A program** is a tool that the machine knows by itself, or a file that can be run.  A file
     whose first line names an interpreter is handed to it; any other file is a script.

  2. **A process** starts with the exported variables, the streams and the directory of who
     started it, and leaves nothing but a status.  If a signal ends it, its end is told.

  3. **A shell** takes its commands from an argument, from a file or from its input.
-/
import WasmBinary.Machine.Script.Builtin.Variables
import WasmBinary.Machine.Script.Concurrent
import WasmBinary.Machine.Script.Tool.Table

namespace WasmBinary.Machine.Script

open Run

/-! ## Processes -/

namespace Shell

/-- The variables in the order in which a process passes them on, the last one first.  A shell
    passes them on in the order of the table in which it keeps them. -/
def arranged (s : Shell) (bindings : List (String × Variable)) : List (String × Variable) :=
  if s.arranges then (inTableOrder 39 bindings.reverse).reverse else bindings

/-- The signals that the processes of a shell ignore from the start. -/
def ignoredByAll (s : Shell) : List String :=
  s.ignored ++ (s.traps.filter fun entry => entry.2 = "").map (·.1)

/-- The shell of a process that this shell starts. -/
def child (s : Shell) (process : Nat) : Shell :=
  { bindings := s.arranged <|
      s.bindings.filter fun entry => entry.2.exported && entry.2.value.isSome
    streams := s.streams
    directory := s.directory
    directoryPath := s.directoryPath
    limits := s.limits
    niceness := s.niceness
    ignored := s.ignoredByAll
    outer := (s.process, s.handledSignals) :: s.outer
    process }

/-- The shell with the variables that every shell has. -/
def withDefaults (s : Shell) (starter : Nat) : Shell :=
  let fixed := [("IFS", " \t\n"), ("OPTIND", "1"), ("PPID", toString starter)]
  let usual := [("PATH", Meaning.standardPath), ("PS1", "$ "), ("PS2", "> "), ("PS4", "+ ")]
  let given := s.bindings.filter fun entry =>
    (fixed.lookup entry.1).isNone && entry.1 ≠ "PWD" && Reader.isName entry.1
  let missing := usual.filter fun entry => (given.lookup entry.1).isNone
  let plain := (missing ++ fixed).map fun (name, value) =>
    (name, ({ value := some value } : Variable))
  { s with
    arranges := true
    bindings := ("PWD", { value := some s.directoryPath, exported := true }) :: plain ++ given }

end Shell

namespace Program

/-- Runs something as a process of its own. -/
def asProcess (run : Runner) (body : Run Unit) : Run Unit := do
  ripen run
  let process ← newProcess
  passPlace
  let stop ← keepingShell (fun before after => { before with status := after.status % 256 }) do
    modifyShell fun s => s.child process
    ending (toTheEnd run body)
  match stop with
  | none =>
      modifyShell fun s => { s with endedBy := none }
      behindProcess
  | some (.signalled signal) =>
      modifyShell fun s => { s with endedBy := some signal }
      if (← shell).tellsEnds then
        if let some text := Signal.obituary? signal then tell (text ++ "\n")
      finish (128 + signal)
      behindProcess
  | some stop => throw stop

/-! ## Shells -/

/-- What the options of a shell say about where its commands are, and the words behind them. -/
structure Invocation where
  /-- Whether the first word holds the commands. -/
  given : Bool := false
  /-- Whether the commands come from the input. -/
  fromInput : Bool := false
  words : List String

/-- Takes the options of a shell. -/
def invocation : Nat → Invocation → Run Invocation
  | 0, i => return i
  | n + 1, i => do
      match i.words with
      | [] => return i
      | word :: rest =>
          match word.toList with
          | ['-'] | ['-', '-'] => return { i with words := rest }
          | '-' :: letters =>
              let others := letters.filter fun c => c ≠ 'c' && c ≠ 'l'
              let words ← Builtin.switchCluster true others rest
              invocation n
                { given := i.given || letters.contains 'c'
                  fromInput := i.fromInput || letters.contains 's'
                  words }
          | '+' :: letters =>
              invocation n { i with words := ← Builtin.switchCluster false letters rest }
          | _ => return i

/-- Does something with a name and arguments. -/
def withName (name : String) (arguments : List String) (body : Run Unit) : Run Unit := do
  modifyShell fun s => { s with name, arguments, line := 1 }
  body

/-- Runs a shell by the name that it is called by, for the process that starts it. -/
def interpret (run : Runner) (starter : Nat) (self : String) (arguments : List String) :
    Run Unit := do
  modifyShell fun s => { s.withDefaults starter with name := self, line := 0 }
  let i ← invocation (arguments.length + 1) { words := arguments }
  if i.given then
    match i.words with
    | [] => abort "-c requires an argument"
    | [text] => withName self [] (runText run text)
    | text :: name :: arguments => withName name arguments (runText run text)
  else
    match i.fromInput, i.words with
    | false, path :: arguments =>
        match ← readPath path .whole with
        | .ok data => withName path arguments (runFile run data)
        | .error .isADirectory => finish 0
        | .error .notADirectory | .error .notFound =>
            abort ("cannot open " ++ path ++ ": No such file")
        | .error fault => abort ("cannot open " ++ path ++ ": " ++ fault.words)
    | _, words =>
        match ← readStream 0 .whole with
        | .ok data => withName self words (runFile run data)
        | .error _ => finish 0

/-! ## Starting programs -/

/-- The interpreter that the first line of a file names, with its argument if there is one. -/
def interpreterOf? (content : ByteArray) : Option (List String) :=
  match (ByteText.ofBytes (content.extract 0 256)).toList with
  | '#' :: '!' :: rest =>
      let blank (c : Char) : Bool := c = ' ' || c = '\t'
      let trimmed (cs : List Char) : List Char :=
        ((cs.dropWhile blank).reverse.dropWhile blank).reverse
      let line := trimmed (rest.takeWhile (· ≠ '\n'))
      let name := line.takeWhile fun c => !blank c
      let argument := trimmed (line.drop name.length)
      if name.isEmpty then none
      else some (String.ofList name ::
        if argument.isEmpty then [] else [String.ofList argument])
  | _ => none

/-- What is to be run for a path. -/
structure Task where
  /-- The tool that does it, by its name. -/
  tool : String
  /-- What the tool is called by. -/
  self : String
  arguments : List String

/-- How often an interpreter may have an interpreter. -/
def longestChain : Nat := 5

/-- What is to be run for a path, or why there is nothing. -/
def task (files : Files) (start : Nat) : Nat → (path self : String) → List String →
    Except FileFault Task
  | 0, _, _, _ => .error .tooManyLinks
  | n + 1, path, self, arguments => do
      let node ← files.findNode start path
      if !node.isExecutable then .error .permissionDenied
      else
        match node.content with
        | .tool name => return { tool := name, self, arguments }
        | .data content =>
            match interpreterOf? content with
            | some (interpreter :: more) =>
                task files start n interpreter interpreter (more ++ path :: arguments)
            | _ => return { tool := "sh", self := "sh", arguments := path :: arguments }
        | _ => .error .permissionDenied

/-- Does a task, in the process that is there. -/
def perform (run : Runner) (start : Starter) (starter : Nat) (t : Task) : Run Unit := do
  if t.tool = "sh" || t.tool = "dash" then interpret run starter t.self t.arguments
  else
    match (Tool.table.lookup t.tool).orElse fun _ => Tool.callerOf? start t.tool with
    | some tool => Tool.perform tool t.self t.arguments
    | none => finish 127

/-- Where a program is that a path leads to, perhaps by way of a stream. -/
def placeOf (path : String) : Run (Except FileFault String) := do
  match streamOfPath? path with
  | none => return .ok path
  | some stream =>
      match ← opening? stream with
      | none => return .error .notFound
      | some number =>
          match (← openedAt? number).map Opened.target with
          | some (.node i) =>
              let files ← files
              if (files.node? i).any fun node => node.isExecutable then
                return .ok (files.pathOf i)
              else return .error .permissionDenied
          | _ => return .error .permissionDenied

/-- Starts a program as a process of its own.  The number bounds how many programs there are that
    start each other. -/
def start (run : Runner) : Nat → Starter
  | 0, _, _, _ => waitForEver
  | n + 1, path, self, arguments => do
      let place ← placeOf path
      let s ← get
      let found := place.bind fun place =>
        task s.world.files s.shell.directory longestChain place self arguments
      match found with
      | .error fault => return some fault
      | .ok t =>
          asProcess run (perform run (start run n) s.shell.process t)
          return none

end Program

end WasmBinary.Machine.Script
