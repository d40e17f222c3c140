/-
  Running commands.

  1. **Simple commands** — the words are replaced by what they stand for; then streams are led
     elsewhere, variables are assigned, and the command is called.  What was assigned for a command
     is brought back, unless the command is a special builtin.

  2. **Compound commands** run their parts.  A loop counts its rounds on its own, so that it takes
     no depth.

  3. **Failures** — a simple command, a pipeline or a subshell that fails ends the shell, if its
     options say so, unless it was asked whether it succeeds.

  4. **Between commands** it is done what jobs in the background have done by then, and what is to
     be done on the signals that have come.

  The number that bounds `execute` shrinks with each command inside another one and with each call
  of a function.
-/
import WasmBinary.Machine.Script.Call
import WasmBinary.Machine.Script.Concurrent
import WasmBinary.Machine.System

namespace WasmBinary.Machine.Script

namespace Run

/-! ## Between commands -/

/-- Ends the shell if its last command has failed and that is a reason to. -/
def insist : Run Unit := do
  let s ← shell
  if s.options.exits && !s.lenient && s.status ≠ 0 then throw .exited

/-- Does what is to be done on the signals that have come. -/
def answerSignals (run : Runner) : Run Unit := do
  for name in (← shell).pending do
    modifyShell fun s => { s with pending := s.pending.drop 1 }
    if let some action := (← shell).traps.lookup name then
      let status := (← shell).status
      keepingShell (fun before after => { after with lenient := before.lenient }) do
        modifyShell fun s => { s with lenient := false }
        runText run action
      finish status

/-- What happens between two commands. -/
def pause (run : Runner) : Run Unit := do
  unless (← get).world.jobs.isEmpty do
    if isRipe (← get).world then ripen run
    settleAll run
    unless (← shell).inner do takeStrikes mostStrikes
  deliver
  unless (← shell).pending.isEmpty do answerSignals run

/-- Asks whether a command succeeds. -/
def asking (body : Run Unit) : Run Bool := do
  keepingShell (fun before after => { after with lenient := before.lenient }) do
    modifyShell fun s => { s with lenient := true }
    body
  return (← shell).status = 0

/-! ## Simple commands -/

/-- Whether the words of a command can be assignments, once its name is known. -/
def declares? (fields : List String) : Option Bool :=
  match fields.dropWhile fun field => field = "command" || field = "-p" || field = "--" with
  | [] => none
  | name :: _ => some (Meaning.declaringNames.contains name)

/-- The fields of the words of a command.  The assignments that a declaration gets are not
    split. -/
def fieldsOfWords (output : Command → Run String) : Option Bool → List Word → Run (List String)
  | _, [] => return []
  | declaring, word :: rest => do
      let fields ← match declaring, Reader.assignment? word with
        | some true, some (name, value) =>
            pure [name ++ "=" ++ (← textOfWord output value .paths)]
        | _, _ => fieldsOfWord output word
      return fields ++ (← fieldsOfWords output (declaring.orElse fun _ => declares? fields) rest)

/-- Does assignments: the texts of them. -/
def assignAll (output : Command → Run String) (exported : Bool)
    (assignments : List (String × Word)) : Run (List String) :=
  assignments.mapM fun (name, word) => do
    let value ← textOfWord output word .paths
    assign name value
    if exported then
      if let some v ← entryOf? name then putVariable name { v with exported := true }
    return name ++ "=" ++ value

/-- Shows a command before it runs. -/
def trace (output : Command → Run String) (stream : Option Nat) (words : List String) :
    Run Unit := do
  if (← shell).options.traces then
    let lead ← match ← valueOf? "PS4" with
      | none => pure ""
      | some text => textOfWord output (wordOf text)
    if let some number := stream then
      let _ ← writeOpened number (ByteText.toBytes (lead ++ " ".intercalate words ++ "\n"))
where
  /-- The word that a text between double quotes is. -/
  wordOf (text : String) : Word :=
    match EStateM.run (Reader.quoted (8 * text.length + 64) .quotes)
        { rest := text.toList ++ ['"'] } with
    | .ok word _ => word
    | .error .. => [.text text true]

/-- Runs a simple command whose words are known. -/
def callSimple (run : Runner) (start : Starter) (output : Command → Run String)
    (assignments : List (String × Word)) (words : List String) : Run Unit := do
  let name := words.headD ""
  let special := Meaning.specialNames.contains name
  let errors ← opening? 2
  let call (texts : List String) : Run Unit := do
    trace output errors (texts ++ words)
    match ← ending (callWords run start words) with
    | none => return
    | some .failed => if special || (← isFunction name) then throw .failed
    | some stop => throw stop
  if special then call (← assignAll output (name = "exec") assignments)
  else
    let saved ← assignments.mapM fun entry => return (entry.1, ← entryOf? entry.1)
    keepingShell (fun _ after => bringBack after saved) do
      call (← assignAll output true assignments)
where
  /-- Whether a name is that of a function. -/
  isFunction (name : String) : Run Bool :=
    return ((← shell).functions.lookup name).isSome

/-- Leads streams elsewhere for a command, or for good. -/
def redirecting (output : Command → Run String) (forGood : Bool)
    (redirections : List Redirection) (body : Run Unit) : Run Bool := do
  if forGood then
    if ← Redirection.applyAll output redirections then
      body
      return true
    else return false
  else Redirection.around output redirections body

/-- Runs a simple command. -/
def simple (run : Runner) (start : Starter) (output : Command → Run String)
    (assignments : List (String × Word)) (words : List Word) (redirections : List Redirection) :
    Run Unit := do
  spend
  let fields ← fieldsOfWords output none words
  let body := if fields.isEmpty then do
      trace output (← opening? 2) (← assignAll output false assignments)
      finish (← shell).substituted
    else callSimple run start output assignments fields
  let opened ← redirecting output (fields.head? = some "exec") redirections body
  if !opened && Meaning.specialNames.contains (fields.headD "") then throw .failed

/-! ## Loops -/

/-- How a loop goes on behind a part of it. -/
inductive Turn
  | onward
  /-- With the next round. -/
  | again
  | leave

/-- How a loop goes on behind a part of it that has ended. -/
def turnOf : Option Stop → Run Turn
  | none => return .onward
  | some (.leaveLoops n) => if n ≤ 1 then return .leave else throw (.leaveLoops (n - 1))
  | some (.restartLoop n) => if n ≤ 1 then return .again else throw (.restartLoop (n - 1))
  | some stop => throw stop

/-- Repeats rounds as long as they ask for it, and so many times at most.  Each round is told the
    status of the one before it; the last status stays. -/
def repeated (round : Nat → Run (Bool × Nat)) : (rounds : Nat) → (last : Nat) → Run Unit
  | 0, _ => waitForEver
  | n + 1, last => fun s =>
      match round last s with
      | (.ok (true, last), s) => repeated round n last s
      | (.ok (false, last), s) => finish last s
      | (.error stop, s) => (.error stop, s)

/-- Does a round for each of some values, as long as the rounds ask for it. -/
def repeatedFor (round : String → Run (Bool × Nat)) : List String → (last : Nat) → Run Unit
  | [], last => finish last
  | value :: rest, _ => fun s =>
      match round value s with
      | (.ok (true, last), s) => repeatedFor round rest last s
      | (.ok (false, last), s) => finish last s
      | (.error stop, s) => (.error stop, s)

/-- Runs a loop, inside of which there is one loop more. -/
def looping (body : Run Unit) : Run Unit :=
  keepingShell (fun before after => { after with loops := before.loops }) do
    modifyShell fun s => { s with loops := s.loops + 1 }
    body

/-- Runs the body of a loop: whether the loop goes on, and the status. -/
def bodyRound (body : Run Unit) : Run (Bool × Nat) := do
  match ← turnOf (← ending body) with
  | .leave => return (false, (← shell).status)
  | _ => return (true, (← shell).status)

/-- Repeats a body while a condition's success is as wanted. -/
def loopWhile (wanted : Bool) (condition body : Run Unit) : Run Unit := do
  let round (last : Nat) : Run (Bool × Nat) := do
    spend
    match ← turnOf (← ending (discard (asking condition))) with
    | .leave => return (false, last)
    | .again => return (true, last)
    | .onward =>
        if decide ((← shell).status = 0) = wanted then bodyRound body else return (false, last)
  looping (repeated round ((← get).world.budget + 1) 0)

/-- Runs a body for each of some values of a variable. -/
def loopOver (name : String) (values : List String) (body : Run Unit) : Run Unit := do
  let round (value : String) : Run (Bool × Nat) := do
    assign name value
    bodyRound body
  looping (repeatedFor round values 0)

/-! ## Commands -/

/-- The command of the first arm that a text fits. -/
def armFor (output : Command → Run String) (text : List Char) :
    List (List Word × Command) → Run Command
  | [] => return .nothing
  | (patterns, command) :: rest => do
      if ← patterns.anyM fun word => return Pattern.fits (← patternOfWord output word) text then
        return command
      else armFor output text rest

/-- Runs a command, if there is one to run. -/
def orSucceed (run : Runner) : Runner
  | .nothing => finish 0
  | command => run command

/-- Remembers the line of a command. -/
def atLine (line : Nat) : Run Unit := modifyShell fun s => { s with line }

/-- Defines a function. -/
def define (name : String) (body : Command) : Run Unit := do
  modifyShell fun s =>
    { s with functions := (name, body) :: s.functions.filter fun entry => entry.1 ≠ name }
  finish 0

/-- Runs a command, when it is known how commands inside it are run and how programs are
    started. -/
def step (run : Runner) (start : Starter) : Runner
  | .nothing => return
  | .simple line assignments words redirections => do
      modifyShell fun s => { s with line, substituted := 0 }
      supplied run (simple run start (capture run) assignments words redirections) mostSupplies
      pause run
      insist
  | .pipe commands => do
      ripen run
      passPlace
      supplied run (pipeline run commands) mostSupplies
      behindProcess
      pause run
      insist
  | .sequence commands => commands.forM run
  | .background command => background command
  | .andThen left right => do if ← asking (run left) then run right
  | .orElse left right => do unless ← asking (run left) do run right
  | .not command => do finishWith !(← asking (run command))
  | .loop wanted condition body => loopWhile wanted (run condition) (run body)
  | .branch condition yes no => do
      if ← asking (run condition) then run yes else orSucceed run no
  | .choose line subject arms => do
      atLine line
      let text ← textOfWord (capture run) subject
      orSucceed run (← armFor (capture run) text.toList arms)
  | .each line name words body => do
      atLine line
      let values ← words.mapM (fieldsOfWord (capture run))
      loopOver name values.flatten (run body)
  | .subshell line command redirections => do
      atLine line
      ripen run
      let body := subshell run do
        if ← Redirection.applyAll (capture run) redirections then run command
      supplied run body mostSupplies
      pause run
      insist
  | .redirected line command redirections => do
      atLine line
      let body := do
        let _ ← Redirection.around (capture run) redirections (run command)
      supplied run body mostSupplies
  | .define name body => define name body

/-- Runs a command.  Commands that nest without end never end. -/
def execute : Nat → Runner
  | 0, _ => waitForEver
  | n + 1, command => do
      unless (← shell).options.idles do step (execute n) (Program.start (execute n) n) command

end Run

/-! ## Whole programs -/

/-- How deeply commands may nest. -/
def greatestDepth : Nat := 20000

/-- How many commands may run. -/
def greatestBudget : Nat := 1200000

/-- The state that a program starts in, if it is looked at so many milliseconds later. -/
def stateOf (launch : Launch) (moment : Nat) (files : Files) : State :=
  let exported := launch.environment.reverse.map fun (name, value) =>
    (name, ({ value := some value, exported := true } : Variable))
  { world :=
      { files
        opened := (launch.streams.map fun node => ({ target := .node node } : Opened)).toArray
        deadline := moment
        budget := greatestBudget }
    shell :=
      { bindings := exported
        streams := (List.range launch.streams.length).map fun i => (i, i)
        directory := launch.directory
        directoryPath := launch.directoryPath } }

/-- Scripts as the programs of a machine.  A look at the very start comes before anything is
    done. -/
def programs : Programs := fun launch files => do
  let t ← Program.task files launch.directory Program.longestChain launch.program launch.program
    launch.arguments
  return fun moment =>
    if moment = 0 then (.running, files)
    else
      let runner := Run.execute greatestDepth
      let body := do
        Run.toTheEnd runner (Program.perform runner (Program.start runner greatestDepth) 0 t)
        Run.ripen runner
      match body (stateOf launch moment files) with
      | (.ok (), s) => (.ended (.exited (s.shell.status % 256)), s.world.files)
      | (.error (.signalled signal), s) => (.ended (.signalled signal), s.world.files)
      | (.error _, s) => (.running, s.world.files)

end WasmBinary.Machine.Script
