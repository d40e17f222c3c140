/-
  Starting other programs.

  A program is started by its path or by its name.  One that cannot be started is not found, or is
  found and cannot be run; the status tells which.
-/
import WasmBinary.Machine.Script.Lookup
import WasmBinary.Machine.Script.Tool.Basic

namespace WasmBinary.Machine.Script

/-- How a program is started, by its path, the name that it is called by, and its arguments: why
    that is impossible, if it is. -/
abbrev Starter := String → String → List String → Run (Option FileFault)

/-- The status of a command that cannot be started. -/
def statusOfFault : FileFault → Nat
  | .notFound | .notADirectory | .nameTooLong | .tooManyLinks => 127
  | _ => 126

namespace Tool

open Run

/-- Starts a program by its name. -/
def startNamed (start : Starter) (name : String) (arguments : List String) :
    Run (Option FileFault) := do
  let path ← if name.contains '/' then pure (.ok name) else Meaning.programOf name
  match path with
  | .ok path => start path name arguments
  | .error fault => return some fault

/-- Starts the program that words call, or says that it cannot be started. -/
def startOr (start : Starter) (words : List String) (refuse : String → String) (self : String) :
    Run Unit := do
  match words with
  | [] => return
  | name :: arguments =>
      if let some fault ← startNamed start name arguments then
        fail self (refuse name ++ ": " ++ fault.words) (statusOfFault fault)

/-- Runs a command line in a shell of its own, which is called by a name: its status. -/
def statusOf (start : Starter) (name command : String) (before : Run Unit := pure ()) : Run Nat :=
  keepingShell (fun before _ => before) do
    before
    let _ ← start "/bin/sh" name ["-c", command]
    return (← shell).status

/-- What a command line writes to its output, and its status. -/
def outputOf (start : Starter) (name command : String) : Run (String × Nat) := do
  let flood := (← get).world.flood
  let (pipe, _, writing) ← addPipe Pipe.greatest
  let status ← statusOf start name command (lead 1 (some writing))
  let (data, _) ← unreadOf pipe
  modifyPipes fun pipes => pipes.modify pipe fun p => { p with data := .empty }
  modifyWorld fun w => { w with flood }
  return (ByteText.ofBytes data, status)

/-- Runs a command line that reads a text: its status. -/
def statusOn (start : Starter) (name command text : String) : Run Nat := do
  let flood := (← get).world.flood
  let (_, reading, writing) ← addPipe Pipe.greatest
  let _ ← writeOpened writing (ByteText.toBytes text)
  let status ← statusOf start name command (lead 0 (some reading))
  modifyWorld fun w => { w with flood }
  return status

end Tool

end WasmBinary.Machine.Script
