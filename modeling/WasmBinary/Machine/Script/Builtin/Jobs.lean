/-
  Builtins that deal with jobs and signals.

  1. **Traps** — the shell is told what to do on signals and on exit.

  2. **Signals** are sent to processes.  Jobs of a script have no groups of their own, so that none
     can be sent to a job by its place.

  3. **Jobs** are told about, the latest first.  Who is told that a job has ended is not told
     again.
-/
import WasmBinary.Machine.Script.Jobs
import WasmBinary.Machine.Script.Builtin.Variables

namespace WasmBinary.Machine.Script.Builtin

open Run

/-! ## Traps -/

/-- Sets or tells what is done on signals and on exit. -/
def trap (arguments : List String) : Run Unit := do
  let (_, words) ← options [] arguments
  match words with
  | [] =>
      let traps := (← shell).traps
      for name in Signal.names do
        if let some action := traps.lookup name then
          emit ("trap -- " ++ quoted action ++ " " ++ name ++ "\n")
      finish 0
  | first :: rest =>
      let numeric := first ≠ "" && first.all Char.isDigit
      let (action, signals) := if rest.isEmpty || numeric then ("-", words) else (first, rest)
      set action signals
where
  /-- Sets what is done on each of some signals. -/
  set (action : String) : List String → Run Unit
    | [] => finish 0
    | word :: rest => do
        match Signal.ofText? word with
        | none =>
            tell ("trap: " ++ word ++ ": bad trap\n")
            finish 1
        | some signal =>
            let name := Signal.name signal
            modifyShell fun s =>
              let others := s.traps.filter fun entry => entry.1 ≠ name
              { s with traps := if action = "-" then others else (name, action) :: others }
            set action rest

/-! ## The jobs that words mean -/

/-- The text of a word that may be missing. -/
def textOfWord? (word : Option String) : String := word.getD "(null)"

/-- The job that a word means; the current one if there is no word. -/
def slotOf (word : Option String) : Run Slot := do
  let slots := (← shell).slots
  let text := word.getD "%"
  let present (slot : Option Slot) (message : String) : Run Slot := do
    match slot with
    | some slot => return slot
    | none => abort message
  match text.toList with
  | ['%'] | ['%', '+'] | ['%', '%'] => present slots.head? "No current job"
  | ['%', '-'] => present (slots.drop 1).head? "No previous job"
  | '%' :: rest =>
      let place := (String.ofList rest).toNat?
      present (slots.find? fun slot => some slot.place = place) ("No such job: " ++ text)
  | _ => abort ("No such job: " ++ text)

/-- The process that a word means: a number, or a job of the shell. -/
def processOf (word : String) : Run Nat := do
  if word.startsWith "%" then return (← slotOf (some word)).process else count word

/-! ## Sending signals -/

/-- Sends a signal to a process: whether there is one. -/
def send (signal process : Nat) : Run Bool := do
  let s ← get
  let own := process = s.shell.process || process = 0
  if own && !s.shell.inner then
    unless signal = 0 do receive signal
    return true
  else if own || (s.shell.outer.lookup process).isSome then
    let letter : Letter :=
      { process := if own then s.shell.process else process, signal, moment := s.world.clock }
    unless signal = 0 do modifyWorld fun w => { w with letters := w.letters ++ [letter] }
    return true
  else
    let running (job : Job) : Bool := job.process = process && job.status.isNone
    if !s.world.jobs.any running then return false
    if signal ≠ 0 && !Signal.isHarmless signal then
      modifyJobs running fun job =>
        { job with
          status := some (128 + signal)
          signal := some signal
          endedBy := some signal
          blocked := none }
    return true

/-- What `kill` needs to be told. -/
def killUsage : String :=
  "Usage: kill [-s sigspec | -signum | -sigspec] [pid | job]... or\nkill -l [exitstatus]"

/-- Sends a signal to each of some processes. -/
def sendAll (signal : Nat) (success : Bool) : List String → Run Unit
  | [] => finishWith success
  | word :: rest => do
      let sent ← if word.startsWith "%" then do
          let _ ← slotOf (some word)
          pure false
        else if word.startsWith "-" then do
          let _ ← count (word.drop 1).toString
          pure false
        else do send signal (← count word)
      unless sent do complain "No such process\n"
      sendAll signal (success && sent) rest

/-- Tells the name of a signal, or of the one that a status stands for. -/
def tellSignal (word : String) : Run Unit := do
  let n ← count word
  let signal := if 128 < n then n - 128 else n
  if signal = 0 || 64 < signal then abort ("invalid signal number or exit status: " ++ word)
  emit (Signal.name signal ++ "\n")
  finish 0

/-- The signal that the argument of `kill` means; the exit of a shell is none. -/
def sendable? (text : String) : Option Nat :=
  (Signal.ofText? text).filter fun n => n ≠ 0 || text.any Char.isDigit

/-- The signals that options name, in order. -/
def signalsOf : List (Char × String) → Run (List Nat)
  | [] => return []
  | ('s', text) :: rest => do
      match sendable? text with
      | none => abort ("invalid signal number or name: " ++ text)
      | some signal => return signal :: (← signalsOf rest)
  | _ :: rest => signalsOf rest

/-- Sends signals to processes, or tells the names of signals. -/
def kill (arguments : List String) : Run Unit := do
  match arguments with
  | [] => abort killUsage
  | first :: rest =>
      let named := if first.startsWith "-" then sendable? (first.drop 1).toString else none
      match named with
      | some signal => if rest.isEmpty then abort killUsage else sendAll signal true rest
      | none =>
          let (chosen, words) ← clusters [ 'l' ] [ 's' ] arguments.length arguments
          let signal? := (← signalsOf chosen).getLast?
          let lists := chosen.any fun option => option.1 = 'l'
          match lists, signal?, words with
          | true, _, [] =>
              emit ("0\n" ++ String.join (Signal.names.tail.map (· ++ "\n")))
              finish 0
          | true, none, word :: _ => tellSignal word
          | true, some _, _ | false, _, [] => abort killUsage
          | false, _, _ => sendAll (signal?.getD 15) true words

/-! ## Telling about jobs -/

/-- How a job is doing. -/
def stateOfJob (job : Job) (moment : Nat) : String :=
  match job.status with
  | none => "Running"
  | some status =>
      let unseen := !job.noticed && job.endedBy.isNone && job.finish.any (moment ≤ ·)
      if unseen then "Running"
      else
        match job.endedBy with
        | some signal => (Signal.words signal)
        | none => if status = 0 then "Done" else "Done(" ++ toString status ++ ")"

/-- Tells about a job.  One that has ended is forgotten. -/
def tellJob (letters : List Char) (slot : Slot) : Run Unit := do
  let s ← get
  let job? := s.world.jobs.find? fun job => job.process = slot.process
  if let some job := job? then
    if letters.contains 'p' then emit (toString slot.process ++ "\n")
    else
      let slots := s.shell.slots.map Slot.place
      let sign := if slots[0]? = some slot.place then "+"
        else if slots[1]? = some slot.place then "-" else " "
      let pid := if letters.contains 'l' then toString slot.process ++ " " else ""
      let text := "[" ++ toString slot.place ++ "] " ++ sign ++ " " ++ pid ++
        stateOfJob job s.world.clock
      let pipes := String.join (List.replicate (slot.stages - 1) " | ")
      emit (text ++ "".pushn ' ' (max 1 (33 - text.length)) ++ pipes ++ "\n")
      if stateOfJob job s.world.clock ≠ "Running" then
        modifyShell fun s =>
          { s with slots := s.slots.filter fun other => other.place ≠ slot.place }

/-- Tells about jobs. -/
def tellJobs (arguments : List String) : Run Unit := do
  let (letters, words) ← options [ 'l', 'p' ] arguments
  let slots ←
    if words.isEmpty then return ← all letters else words.mapM fun word => slotOf (some word)
  slots.forM (tellJob letters)
  finish 0
where
  /-- Tells about all jobs. -/
  all (letters : List Char) : Run Unit := do
    (← shell).slots.forM (tellJob letters)
    finish 0

/-- Moves a job to the foreground or to the background.  The jobs of a script cannot be moved. -/
def moveJob (arguments : List String) : Run Unit := do
  let (_, words) ← options [] arguments
  let _ ← slotOf words.head?
  abort ("job " ++ textOfWord? words.head? ++ " not created under job control")

end WasmBinary.Machine.Script.Builtin
