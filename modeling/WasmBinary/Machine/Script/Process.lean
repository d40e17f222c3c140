/-
  Shells within shells.

  1. **Complaints** name the script, the line and the command that complains.

  2. **Texts** are read and run line by line, so that what stands on a line runs before a mistake
     on a later line is found.

  3. **Subshells** run on a copy of the shell.  Whatever ends a subshell early ends only it, apart
     from what stops the whole script.  On its way out a shell does what it was asked to do on
     exit.

  Everything here is told how to run a command.
-/
import WasmBinary.Machine.Script.Jobs
import WasmBinary.Machine.Script.Numeral
import WasmBinary.Machine.Script.Parse
import WasmBinary.Machine.Script.Streams
import WasmBinary.Sum

namespace WasmBinary.Machine.Script

/-- How commands are run. -/
abbrev Runner := Command → Run Unit

namespace Run

/-! ## Complaints -/

/-- Complains in the name of the script. -/
def complain (text : String) : Run Unit := do
  let s ← shell
  let caller := match s.caller with
    | some caller => caller ++ ": "
    | none => ""
  tell (s.name ++ ": " ++ toString s.line ++ ": " ++ caller ++ text ++ "\n")

/-- Complains, and fails with a status. -/
def refuse (text : String) (status : Nat := 2) : Run Unit := do
  complain text
  finish status

/-- Complains and ends the shell. -/
def abort {α : Type} (text : String) (status : Nat := 2) : Run α := do
  complain text
  finish status
  throw .failed

/-- The most bytes that a variable holds; who wants more is stopped. -/
def longestValue : Nat := Nat.pow 2 24

/-- Gives a variable a value. -/
def assign (name value : String) : Run Unit := do
  if longestValue < value.utf8ByteSize then waitForEver
  let v := (← entryOf? name).getD {}
  if v.fixed then abort (name ++ ": is read only")
  else
    let exported := v.exported || (← shell).options.exports
    if name = "OPTIND" then
      match Numeral.count? value with
      | some n => modifyShell (Shell.atOption · (max n 1))
      | none => abort ("Illegal number: " ++ value)
    putVariable name { v with value := some value, exported }
    if name = "PATH" then modifyShell fun s => { s with hashed := [] }

/-! ## Texts -/

/-- Shows the lines that have been read, from one state of a source to a later one.  A line is shown
    as a whole. -/
def showRead (before after : Source) : Run Unit := do
  if before.shown && (← shell).options.echoes then
    let text := before.rest.drop (before.rest.length - before.left)
    let count := before.left - after.left
    let read := text.take count
    let line := if count = 0 || read.getLast? = some '\n' then []
      else (text.drop count).takeWhile (· ≠ '\n')
    let ended := !line.isEmpty && (text.drop (count + line.length)).head? = some '\n'
    tell (String.ofList (read ++ line ++ if ended then ['\n'] else []))

/-- Reads the next line of commands.  A text that is no script ends the shell. -/
def nextLine (source : Source) : Run (Option Command × Source) := do
  let documents := (← get).world.documents
  let source := { source with documents, aliases := (← shell).aliases }
  match EStateM.run Reader.line source with
  | .ok command after =>
      modifyWorld fun w => { w with documents := after.documents }
      modifyShell fun s => { s with readTo := after.line }
      showRead source after
      return (command, after)
  | .error mistake after =>
      showRead source after
      modifyShell fun s => { s with line := mistake.line }
      abort ("Syntax error: " ++ mistake.message)

/-- How many lines more than it has characters a source may have, because of aliases. -/
def mostAliasLines : Nat := Nat.pow 2 20

/-- Runs the lines of a source, and tells whether there were any commands.  Every line takes
    something off the source, so that its length bounds how many there are. -/
def runLines (run : Runner) : Nat → Source → Run Bool
  | 0, _ => return false
  | n + 1, source => do
      match ← nextLine source with
      | (none, _) => return false
      | (some .nothing, source) => runLines run n source
      | (some command, source) =>
          run command
          let _ ← runLines run n source
          return true

/-- Runs the commands of a text. -/
def runText (run : Runner) (text : String) : Run Unit := do
  unless ← runLines run (text.length + mostAliasLines) { rest := text.toList } do finish 0

/-- Runs the commands of a file.  Its zero bytes mean nothing. -/
def runFile (run : Runner) (data : ByteArray) : Run Unit := do
  let rest := (ByteText.ofBytes data).toList.filter fun c => c.toNat ≠ 0
  unless ← runLines run (rest.length + mostAliasLines) { rest, shown := true } do finish 0

/-! ## Leaving -/

/-- Does what the shell was asked to do on exit.  Its status stays, unless that asks for another. -/
def leave (run : Runner) : Run Unit := do
  let s ← shell
  if let some action := s.traps.lookup "EXIT" then
    modifyShell fun s =>
      { s with
        traps := s.traps.filter fun entry => entry.1 ≠ "EXIT"
        leaving := some s.status, loops := 0, frames := [], lenient := false }
    match ← ending (runText run action) with
    | some .exited | some .failed => return
    | some (.killed) => throw .killed
    | some (.starved pipe) => throw (.starved pipe)
    | some (.blocked node writing) => throw (.blocked node writing)
    | some (.signalled signal) => throw (.signalled signal)
    | _ => finish s.status

/-- Runs a shell to its end.  What stops the whole script goes on. -/
def toTheEnd (run : Runner) (body : Run Unit) : Run Unit := do
  match ← ending body with
  | some .killed => throw .killed
  | some (.starved pipe) => throw (.starved pipe)
  | some (.blocked node writing) => throw (.blocked node writing)
  | some (.signalled signal) => throw (.signalled signal)
  | some .unread => finish 141
  | _ => leave run

/-- Runs something in a subshell.  Only its status is left of it, as a byte.  What is to be ignored
    stays so. -/
def isolated (run : Runner) (body : Run Unit) : Run Unit :=
  keepingShell (fun before after =>
      { before with status := after.status % 256, endedBy := after.endedBy }) do
    modifyShell fun s =>
      { s with
        inner := true
        handled := s.handledSignals
        traps := s.traps.filter fun entry => entry.2 = ""
        pending := []
        slots := []
        leaving := none }
    toTheEnd run body

/-- Runs something in a subshell and waits for it. -/
def subshell (run : Runner) (body : Run Unit) : Run Unit := do
  passPlace
  isolated run body
  behindProcess

end Run

end WasmBinary.Machine.Script
