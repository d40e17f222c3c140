/-
  Jobs of a shell and signals to it.

  1. **Places** — a job gets the first place that is free.  The place of a job that has ended and
     was waited for is free.

  2. **Ends** — a shell notices that jobs have ended while it waits for another process.

  3. **Signals** — a signal ends a process, unless something is to be done on it or it is to be
     ignored.  A process that waits for another one gets its signals behind that.
-/
import WasmBinary.Machine.Script.State

namespace WasmBinary.Machine.Script

/-! ## The numbers and names of signals -/

namespace Signal

/-- The names of the signals that have a meaning, from number zero on, which stands for the exit of
    a shell. -/
def meaningful : List String :=
  ["EXIT", "HUP", "INT", "QUIT", "ILL", "TRAP", "ABRT", "BUS", "FPE", "KILL", "USR1", "SEGV",
    "USR2", "PIPE", "ALRM", "TERM", "16", "CHLD", "CONT", "STOP", "TSTP", "TTIN", "TTOU", "URG",
    "XCPU", "XFSZ", "VTALRM", "PROF", "WINCH", "IO", "PWR", "SYS"]

/-- The names of the signals.  Behind those that have a meaning, the others are counted from both
    ends. -/
def names : List String :=
  let counted (bound sign : String) (n : Nat) : String :=
    if n = 0 then bound else bound ++ sign ++ toString n
  meaningful ++ ["32", "33"] ++ (List.range 16).map (counted "RTMIN" "+") ++
    (List.range 15).reverse.map (counted "RTMAX" "-")

/-- The signal of a number or a name. -/
def ofText? (text : String) : Option Nat :=
  if text ≠ "" && text.all Char.isDigit then
    (text.toNat?).bind fun n => if n < 65 then some n else none
  else names.idxOf? (String.ofList (text.toList.map Char.toUpper))

/-- The name of a signal. -/
def name (signal : Nat) : String := names.getD signal (toString signal)

/-- What is said about a process that was ended by a signal. -/
def obituary? (signal : Nat) : Option String :=
  match name signal with
  | "HUP" => some "Hangup"
  | "QUIT" => some "Quit"
  | "ILL" => some "Illegal instruction"
  | "TRAP" => some "Trace/breakpoint trap"
  | "ABRT" => some "Aborted"
  | "BUS" => some "Bus error"
  | "FPE" => some "Floating point exception"
  | "16" => some "Stack fault"
  | "XCPU" => some "CPU time limit exceeded"
  | "XFSZ" => some "File size limit exceeded"
  | "VTALRM" => some "Virtual timer expired"
  | "PROF" => some "Profiling timer expired"
  | "IO" => some "I/O possible"
  | "PWR" => some "Power failure"
  | "SYS" => some "Bad system call"
  | "KILL" => some "Killed"
  | "USR1" => some "User defined signal 1"
  | "SEGV" => some "Segmentation fault"
  | "USR2" => some "User defined signal 2"
  | "ALRM" => some "Alarm clock"
  | "TERM" => some "Terminated"
  | _ => none

/-- What is told about a job that was ended by a signal. -/
def words (signal : Nat) : String :=
  match name signal with
  | "INT" => "Interrupt"
  | "PIPE" => "Broken pipe"
  | other => (obituary? signal).getD other

/-- The signals that nothing happens by, unless there is something to do. -/
def isHarmless (signal : Nat) : Bool := ["CHLD", "CONT", "URG", "WINCH"].contains (name signal)

end Signal

namespace Run

/-! ## Jobs -/

/-- The job of a process. -/
def jobOf? (process : Nat) : Run (Option Job) :=
  return (← get).world.jobs.find? fun job => job.process = process

/-- Changes the jobs for which something is true. -/
def modifyJobs (which : Job → Bool) (f : Job → Job) : Run Unit :=
  modifyWorld fun w =>
    { w with jobs := w.jobs.map fun job => if which job then f job else job }

/-- Whether a job has ended by a moment. -/
def isOver (job : Job) (moment : Nat) : Bool :=
  job.status.isSome || job.finish.any (· ≤ moment)

/-- Notices that jobs of this shell have ended. -/
def notice : Run Unit := do
  let s ← get
  unless s.shell.slots.isEmpty do
    let mine (job : Job) : Bool := s.shell.slots.any fun slot => slot.process = job.process
    modifyJobs (fun job => mine job && isOver job s.world.clock) fun job =>
      { job with noticed := true, signal := none }

/-- The first place that is free, and the jobs that keep theirs. -/
def freePlace (jobs : List Job) (slots : List Slot) : Nat → Nat → Nat × List Slot
  | 0, place => (place, slots)
  | n + 1, place =>
      match slots.find? fun slot => slot.place = place with
      | none => (place, slots)
      | some slot =>
          let done := jobs.any fun job =>
            job.process = slot.process && job.status.isSome && job.waited
          if done then (place, slots.filter fun other => other.place ≠ place)
          else freePlace jobs slots n (place + 1)

/-- Takes a place for a process of the foreground, which gives it back at once. -/
def passPlace : Run Unit := do
  let s ← get
  unless s.shell.slots.isEmpty do
    let (_, slots) := freePlace s.world.jobs s.shell.slots (s.shell.slots.length + 1) 1
    modifyShell fun s => { s with slots }

/-- Takes a place for a job. -/
def takePlace (process stages : Nat) : Run Unit := do
  let s ← get
  let (place, slots) := freePlace s.world.jobs s.shell.slots (s.shell.slots.length + 1) 1
  modifyShell fun s => { s with slots := { place, process, stages } :: slots }

/-! ## Signals -/

/-- What a signal does to the process that it comes to. -/
def receive (signal : Nat) : Run Unit := do
  let name := Signal.name signal
  let s ← shell
  if name = "KILL" || name = "STOP" then throw (.signalled signal)
  else if s.ignored.contains name then return
  else
    match s.traps.lookup name with
    | some "" => return
    | some _ => modifyShell fun s => { s with pending := s.pending ++ [name] }
    | none => unless Signal.isHarmless signal do throw (.signalled signal)

/-- Receives the signals that have come while another process ran. -/
def deliver : Run Unit := do
  let s ← get
  unless s.world.letters.isEmpty || s.shell.inner do
    let mine := s.world.letters.filter fun letter => letter.process = s.shell.process
    modifyWorld fun w =>
      { w with letters := w.letters.filter fun letter => letter.process ≠ s.shell.process }
    for letter in mine do receive letter.signal

/-- What a shell does when a process of the foreground has ended. -/
def behindProcess : Run Unit := do
  notice
  let s ← shell
  if (s.traps.lookup "CHLD").any (· ≠ "") then receive 17
  deliver

end Run

end WasmBinary.Machine.Script
