/-
  Calling commands by their names.

  1. **Builtins** are run by the shell itself.  A builtin that fails ends a script only if it is a
     special one.  While it runs, complaints name it.

  2. **Functions** run with arguments of their own, and bring back the variables that they have
     declared to be theirs.

  3. **Programs** run as processes.  A command that nothing is known about has status 127.

  Everything here is told how to run a command, and how often programs may start each other.
-/
import WasmBinary.Machine.Script.Builtin.Surroundings
import WasmBinary.Machine.Script.Program
import WasmBinary.Machine.Script.Redirect

namespace WasmBinary.Machine.Script

namespace Run

/-! ## Functions -/

/-- Brings back what a variable was.  The options of a script start where it says again. -/
def bringBackOne (s : Shell) (name : String) (old : Option Variable) : Shell :=
  let others := s.bindings.filter fun entry => entry.1 ≠ name
  let s := { s with bindings := (old.map fun v => (name, v)).toList ++ others }
  if name = "OPTIND" then
    s.atOption (max 1 (((old.bind Variable.value).bind Numeral.count?).getD 1))
  else s

/-- Brings back what variables were. -/
def bringBack (s : Shell) (saved : List (String × Option Variable)) : Shell :=
  saved.foldl (fun s (name, old) => bringBackOne s name old) s

/-- The shell behind a function: its arguments and loops are again what they were. -/
def behindFunction (before after : Shell) : Shell :=
  let restored : Shell :=
    { after with
      arguments := before.arguments
      loops := before.loops
      optionIndex := before.optionIndex
      optionPosition := before.optionPosition
      frames := before.frames
      options := (after.frames.head?.bind Frame.options).getD after.options }
  bringBack restored ((after.frames.head?.map Frame.bindings).getD [])

/-- How many functions may run inside each other. -/
def greatestNesting : Nat := 1000

/-- Calls a function. -/
def callFunction (run : Runner) (body : Command) (arguments : List String) : Run Unit := do
  if greatestNesting ≤ (← shell).frames.length then
    abort ("Maximum function recursion depth (" ++ toString greatestNesting ++ ") reached")
  match ← ending (keepingShell behindFunction do
      modifyShell fun s =>
        { s.atOption 1 with arguments, loops := 0, frames := {} :: s.frames }
      run body) with
  | none | some .returned => return
  | some stop => throw stop

/-! ## Builtins that run commands -/

/-- The status that an argument asks for. -/
def statusOf (arguments : List String) : Run Unit := do
  match arguments with
  | [] => return
  | word :: _ => finish (← Builtin.count word)

/-- Leaves the shell.  What is done on exit can leave with the status that the shell had. -/
def exit (arguments : List String) : Run Unit := do
  if arguments.isEmpty then
    if let some status := (← shell).leaving then finish status
  else statusOf arguments
  throw .exited

/-- Leaves or restarts loops, as many as there are and as are asked for. -/
def leap (arguments : List String) (stop : Nat → Stop) : Run Unit := do
  let n ← match arguments with
    | [] => pure 1
    | word :: _ => do
        let n ← Builtin.count word
        if n = 0 then abort ("Illegal number: " ++ word) else pure n
  let n := min n (← shell).loops
  finish 0
  unless n = 0 do throw (stop n)

/-- Runs the commands of arguments. -/
def evaluateWords (run : Runner) (arguments : List String) : Run Unit :=
  match arguments with
  | [] => finish 0
  | words => runText run (" ".intercalate words)

/-- Where the commands of a file are looked for. -/
def pathOfSource (name : String) : Run String := do
  if name.contains '/' then return name
  let search ← Meaning.searchPath
  let s ← get
  let found := search.findSome? fun directory =>
    let path := Meaning.inDirectory directory name
    if (s.world.files.findNode s.shell.directory path).toOption.any Node.isPlain then some path
    else none
  match found with
  | some path => return path
  | none => abort (name ++ ": not found")

/-- Runs the commands of a file in this shell. -/
def sourceFile (run : Runner) (arguments : List String) : Run Unit := do
  match arguments with
  | [] => finish 0
  | name :: _ =>
      let path ← pathOfSource name
      match ← readPath path .whole with
      | .error .isADirectory => finish 0
      | .error _ => abort ("cannot open " ++ path ++ ": No such file")
      | .ok data =>
          let body := do
            modifyShell fun s => { s with caller := some path, lenient := false }
            runFile run data
          match ← ending (keepingShell (fun before after =>
              { after with lenient := before.lenient }) body) with
          | none | some .returned => return
          | some stop => throw stop

/-- Makes a program take the place of the shell.  Nothing is done on exit any more. -/
def replaceShell (start : Starter) (arguments : List String) : Run Unit := do
  match arguments with
  | [] => finish 0
  | name :: rest =>
      match ← Tool.startNamed start name rest with
      | none => modifyShell fun s => { s with traps := [] }
      | some fault =>
          let text := if statusOfFault fault = 127 then "not found" else fault.words
          refuse (name ++ ": " ++ text) (statusOfFault fault)
      throw .exited

/-- Waits for processes. -/
def waitForThose (run : Runner) (arguments : List String) : Run Unit := do
  let (_, words) ← Builtin.options [] arguments
  waitForJobs run (← words.mapM Builtin.processOf)

/-- The builtin of a name. -/
def builtinOf? (run : Runner) (start : Starter) (name : String) : Option (List String → Run Unit) :=
  match name with
  | "break" => some fun words => leap words .leaveLoops
  | "continue" => some fun words => leap words .restartLoop
  | "return" => some fun words => do
      statusOf words
      throw .returned
  | "exit" => some exit
  | "eval" => some (evaluateWords run)
  | "exec" => some (replaceShell start)
  | "." => some (sourceFile run)
  | "wait" => some (waitForThose run)
  | _ => Builtin.ofName? name

/-- Calls a builtin.  It fails if not all of its output could be written. -/
def callBuiltin (name : String) (body : Run Unit) : Run Unit := do
  modifyWorld fun w => { w with unwritten := none }
  keepingShell (fun before after => { after with caller := before.caller }) do
    modifyShell fun s => { s with caller := some name }
    body
    if (← get).world.unwritten.isSome then
      modifyWorld fun w => { w with unwritten := none }
      refuse (name ++ ": I/O error") 1

/-! ## Names -/

/-- Calls a program by its path. -/
def callProgram (start : Starter) (path name : String) (arguments : List String) : Run Unit := do
  if let some fault ← start path name arguments then
    let text := match fault with
      | .notFound | .notADirectory => "not found"
      | fault => fault.words
    refuse (name ++ ": " ++ text) (statusOfFault fault)

/-- Calls what a name means; a function only if it may be one, and a program where programs usually
    are only if it is to be looked for there. -/
def callName (run : Runner) (start : Starter) (functions usual : Bool) (name : String)
    (arguments : List String) : Run Unit := do
  match ← Meaning.ofName name functions usual with
  | .function body => callFunction run body arguments
  | .program path => callProgram start path name arguments
  | .special | .builtin =>
      match builtinOf? run start name with
      | some builtin => callBuiltin name (builtin arguments)
      | none => finish 0
  | .nothing fault =>
      let text := if name = "" then FileFault.permissionDenied.words
        else if fault = .notFound then "not found" else fault.words
      refuse (name ++ ": " ++ text) 127

/-- The command that is left of the arguments of `command`, if it is to be run, and whether its
    program is looked for where programs usually are. -/
def commanded? : List String → Option (Bool × List String)
  | [] => none
  | word :: rest =>
      if word = "--" then if rest.isEmpty then none else some (false, rest)
      else if word.startsWith "-" && word ≠ "-" then
        if (word.toList.drop 1).all (· = 'p') then
          (commanded? rest).map fun (_, words) => (true, words)
        else none
      else some (false, word :: rest)

/-- Calls a command whose name may be behind `command`, which asks for no function.  The number
    bounds how often that is so. -/
def callWordsWithin (run : Runner) (start : Starter) :
    Nat → (functions usual : Bool) → List String → Run Unit
  | n + 1, _, usual, "command" :: words =>
      match commanded? words with
      | some (asked, words) => callWordsWithin run start n false (usual || asked) words
      | none => callBuiltin "command" (Builtin.tellMeaning words)
  | _, functions, usual, name :: arguments => callName run start functions usual name arguments
  | _, _, _, [] => finish 0

/-- Calls a command whose name may be behind `command`. -/
def callWords (run : Runner) (start : Starter) (words : List String) : Run Unit :=
  callWordsWithin run start words.length true false words

end Run

end WasmBinary.Machine.Script
