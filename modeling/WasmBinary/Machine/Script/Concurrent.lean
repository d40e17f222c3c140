/-
  Commands that run beside each other.

  1. **Pipelines** — the commands of a pipeline run one after the other, each on what the one
     before it has written, and all from the same moment on.  The pipeline ends when the last of
     them has ended.  A writer that fills its pipe is stopped there.  When a reader turns out to
     want more, the whole pipeline starts again, with pipes that hold more.

     Files are opened ahead: a program takes a while until it looks at anything, and by then the
     commands behind it have opened the files that their streams are led to, so that these files
     are there, and empty if they are to be replaced.

  2. **The background** — a command comes to run when its shell starts another process, or waits,
     or after some more commands of the shell itself.  One that takes no time has ended then.  Any
     other command is put off until it would have ended, or until somebody waits for it.

  3. **Pipes with names** — a command of the background that nobody is there for at the other end
     of such a pipe starts again when somebody is.  Writers run as a whole before their readers.
-/
import WasmBinary.Machine.Script.Lookup
import WasmBinary.Machine.Script.Process
import WasmBinary.Machine.Script.Redirect

namespace WasmBinary.Machine.Script

/-! ## Files that are opened ahead -/

/-- Whether nothing else happens when a word is replaced by what it stands for. -/
def isStill (word : Word) : Bool :=
  word.all fun
    | .text .. | .parameter .. | .length .. => true
    | _ => false

/-- The redirections that a command starts with. -/
def Command.firstRedirections : Command → List Redirection
  | .simple _ _ _ redirections => redirections
  | .subshell _ command redirections | .redirected _ command redirections =>
      redirections ++ command.firstRedirections
  | .sequence (command :: _) => command.firstRedirections
  | _ => []

namespace Run

/-- Whether a command starts with a program that there is, and not with something that the shell
    does by itself. -/
def startsProgram : Command → Run Bool
  | .simple _ _ (word :: _) _ => do
      let name := plainText word
      let isPlain := word.all fun
        | .text .. => true
        | _ => false
      let known := Meaning.specialNames.contains name || Meaning.builtinNames.contains name
      if !isPlain || known || ((← shell).functions.lookup name).isSome then return false
      let search ← Meaning.searchPath
      let found ← Meaning.programAlong (if name.contains '/' then [""] else search) name 0
      return found.isOk
  | .subshell _ command _ | .redirected _ command _ => startsProgram command
  | .sequence (command :: _) => startsProgram command
  | _ => return false

/-- Opens a file: whether that is possible.  If not, nothing happens. -/
def opensAhead (opening : Opening) (target : Word) : Run Bool := fun s =>
  let body : Run (Except FileFault Nat) := do
    openPath (← textOfWord (fun _ => return "") target) opening (← shell).options.keeps
  match body s with
  | (.ok (.ok _), after) => (.ok true, { after with shell := s.shell })
  | _ => (.ok false, s)

/-- Opens the files that streams are led to, as far as that is possible. -/
def openAhead : List Redirection → Run Unit
  | [] => return
  | .file _ opening target :: rest => do
      let keeps := opening = .replace && (← shell).options.keeps
      if isStill target && !keeps then
        if ← opensAhead opening target then openAhead rest
  | _ :: rest => openAhead rest

end Run

namespace Run

/-! ## The clock -/

/-- Sets the clock back. -/
def rewind (moment : Nat) : Run Unit := modifyWorld fun w => w.at moment

/-- The clock. -/
def now : Run Nat := return (← get).world.clock

/-! ## The background -/

/-- The number of a new process. -/
def newProcess : Run Nat := do
  modifyWorld fun w => { w with processes := w.processes + 1 }
  return (← get).world.processes

/-- Whether a command is a single one, so that its process is that of the job. -/
def isSingle : Command → Bool
  | .simple .. => true
  | _ => false

/-- Runs a command in the background, from now on. -/
def detached (run : Runner) (command : Command) : Run Unit :=
  isolated run do
    if let .ok number ← openPath "/dev/null" .input then lead 0 (some number)
    modifyShell fun s => { s with endedBy := none, tellsEnds := !isSingle command }
    run command

/-- What comes of a job that runs from its start on. -/
structure Trial where
  stop : Option Stop
  /-- What there is then. -/
  state : State

/-- The signals that a job has sent to its shell, with the times. -/
def Trial.strikes (t : Trial) (job : Job) (before : World) : List (Nat × Nat) :=
  ((t.state.world.letters.drop before.letters.length).filter fun letter =>
    letter.process = job.shell.process).map fun letter => (letter.moment, letter.signal)

/-- Lets a job run from its start on, while others hold and offer pipes with names. -/
def attemptJob (run : Runner) (job : Job) (held offered : List Nat) (s : State) : Trial :=
  let jobs := s.world.jobs.map fun other =>
    if other.process = job.process then { other with status := some 0, blocked := none } else other
  let queues := { s.world.queues with
    held, offered := offered ++ s.world.queues.offered, behind := true }
  let world := { s.world with jobs, queues }
  match detached run job.command { world := world.at job.start, shell := job.shell } with
  | (.ok (), state) => { stop := none, state }
  | (.error stop, state) => { stop := some stop, state }

/-- The state behind a job that has ended.  The clock and the shell are as before; of the signals
    that it has sent, those are left that have not come yet. -/
def Trial.accept (t : Trial) (job : Job) (before : State) : State :=
  let old := before.world.letters.length
  let world := t.state.world
  let shell := t.state.shell
  let signal := if isSingle job.command then shell.endedBy else none
  let settled (other : Job) : Job :=
    if other.process = job.process then
      { other with
        status := some shell.status
        finish := some world.clock
        endedBy := signal
        signal := if other.noticed then none else signal }
    else other
  let queues := { world.queues with
    held := before.world.queues.held
    offered := before.world.queues.offered
    behind := before.world.queues.behind }
  let letters := world.letters.take old ++ (world.letters.drop old).drop job.delivered
  { world := { world with jobs := world.jobs.map settled, queues, letters }.at before.world.clock
    shell := before.shell }

/-- Changes a job. -/
def modifyJob (job : Job) (f : Job → Job) : Run Unit :=
  modifyJobs (fun other => other.process = job.process) f

/-- Lets a job run, if it has ended by now; otherwise it is noted when it will have, or what it
    waits for. -/
def tryJob (run : Runner) (job : Job) (held : List Nat) : Run Unit := do
  let s ← get
  let t := attemptJob run job held [] s
  let strikes := t.strikes job s.world
  let stamp := some (s.world.queues.changes, held.length)
  match t.stop with
  | some (.blocked node writing) =>
      modifyJob job fun job =>
        { job with finish := none, blocked := some (node, writing), tried := stamp, strikes }
  | some .killed | some (.signalled _) =>
      modifyJob job fun job => { job with finish := none, blocked := none, strikes }
  | _ =>
      let moment := t.state.world.clock
      if moment ≤ s.world.clock then set (t.accept job s)
      else modifyJob job fun job => { job with finish := some moment, blocked := none, strikes }

/-- How many commands a job consists of. -/
def stagesOf : Command → Nat
  | .pipe commands => commands.length
  | _ => 1

/-- Puts a command into the background. -/
def background (command : Command) : Run Unit := do
  let process ← newProcess
  let s ← get
  let job : Job :=
    { process, command, shell := s.shell, budget := s.world.budget, start := s.world.clock
      finish := none }
  modifyWorld fun w => { w with jobs := w.jobs ++ [job] }
  takePlace process (stagesOf command)
  modifyShell fun s => { s with lastJob := some process }
  finish 0

/-- Lets the jobs run that have not come to run yet. -/
def ripen (run : Runner) : Run Unit := do
  let w := (← get).world
  let fresh := w.jobs.filter fun job => job.fresh && job.status.isNone
  unless fresh.isEmpty do
    modifyJobs Job.fresh fun job => { job with fresh := false }
    fresh.forM fun job => tryJob run { job with fresh := false } w.queues.held

/-- How many commands of the shell itself run before a job comes to run. -/
def mostHead : Nat := 200

/-- Whether jobs have to come to run by now. -/
def isRipe (w : World) : Bool :=
  w.jobs.any fun job =>
    job.fresh && job.status.isNone && (job.start < w.clock || w.budget + mostHead < job.budget)

/-- Does what all jobs have done that have ended by now, in the order in which they ended, and lets
    those go on that somebody has written something for. -/
def settleAll (run : Runner) : Run Unit := do
  let w := (← get).world
  let due := w.jobs.filter fun job =>
    job.status.isNone && job.finish.any fun finish => finish ≤ w.clock
  let inOrder := due.mergeSort fun a b => a.finish.getD 0 ≤ b.finish.getD 0
  inOrder.forM fun job => tryJob run job w.queues.held
  let waiting := (← get).world.jobs.filter fun job =>
    job.status.isNone && job.blocked.any fun blocked => !blocked.2
  unless waiting.isEmpty do
    let held := (← pipesWritten) ++ w.queues.held
    for job in waiting do
      let stamp := some ((← get).world.queues.changes, held.length)
      if job.tried ≠ stamp then tryJob run job held

/-! ## Pipes with names -/

/-- Lets the jobs run that want to write to a pipe with a name: whether one of them could. -/
def supply (run : Runner) (node : Nat) : Run Bool := do
  let writers := (← get).world.jobs.filter fun job =>
    job.status.isNone && job.blocked = some (node, true)
  let results ← writers.mapM fun job => do
    let s ← get
    let t := attemptJob run job s.world.queues.held [node] s
    let moment := t.state.world.clock
    let made (pipe : Nat) : Bool :=
      s.world.pipes.size ≤ pipe && t.state.world.queues.sessions.any fun session =>
        session.pipe = pipe && session.node = node
    match t.stop with
    | some (.blocked other writing) =>
        modifyJob job fun job => { job with blocked := some (other, writing) }
        return false
    | some .killed =>
        set (t.accept job s)
        modifyJob job fun job => { job with status := none, finish := none, blocked := none }
        modifyQueues fun q =>
          { q with held := (q.sessions.map Session.pipe).filter made ++ q.held }
        return true
    | _ =>
        set (t.accept job s)
        let pipes := (← get).world.queues.sessions.map Session.pipe
        modifyPipes fun all => (pipes.filter made).foldl (fun all pipe =>
          all.modify pipe fun p => { p with readyAt := max p.readyAt moment }) all
        return true
  return results.any id

/-- Runs something that may read from pipes with names.  When nobody has written to one of them,
    those who want to are let, and it starts again. -/
def supplied (run : Runner) (body : Run Unit) : Nat → Run Unit
  | 0 => body
  | n + 1 => fun s =>
      let waits (test : Job → Bool) : Bool :=
        s.world.jobs.any fun job => job.status.isNone && test job
      if waits fun job => job.fresh || job.blocked.isSome then
        match body s with
        | (.error (.blocked node writing), after) =>
            if waits Job.fresh then
              match ripen run s with
              | (.ok (), s) => supplied run body n s
              | _ => (.error (.blocked node writing), after)
            else if writing then (.error (.blocked node writing), after)
            else
              match supply run node s with
              | (.ok true, s) => supplied run body n s
              | _ => (.error (.blocked node writing), after)
        | result => result
      else body s

/-- How often a command may start again because of pipes with names. -/
def mostSupplies : Nat := 64

/-! ## Waiting for jobs -/

/-- The next signal that a job sends to the shell by a moment, if one is given: the job, the time
    and the signal. -/
def nextStrike (last : Option Nat) : Run (Option (Job × Nat × Nat)) := do
  let jobs := (← get).world.jobs
  let coming := jobs.filterMap fun job =>
    match job.status, job.strikes.drop job.delivered with
    | none, (moment, signal) :: _ =>
        if last.all (moment ≤ ·) then some (job, moment, signal) else none
    | _, _ => none
  return (coming.mergeSort fun a b => a.2.1 ≤ b.2.1).head?

/-- Takes the signals that jobs have sent to the shell by now. -/
def takeStrikes : Nat → Run Unit
  | 0 => return
  | n + 1 => do
      if let some (job, moment, signal) ← nextStrike (some (← now)) then
        modifyJob job fun job => { job with delivered := job.delivered + 1 }
        let clock ← now
        match ← ending (receive signal) with
        | none => takeStrikes n
        | some stop =>
            rewind (min clock moment)
            throw stop

/-- Waits until a moment, or for ever: the signal that comes before, if the shell does something
    on it. -/
def pauseUntil (moment : Option Nat) : Nat → Run (Option Nat)
  | 0 => return none
  | n + 1 => do
      match ← nextStrike moment with
      | some (job, time, signal) =>
          waitUntil time
          modifyJob job fun job => { job with delivered := job.delivered + 1 }
          let pending := (← shell).pending.length
          receive signal
          if pending < (← shell).pending.length then return some signal else pauseUntil moment n
      | none =>
          match moment with
          | some moment =>
              waitUntil moment
              return none
          | none => waitForEver

/-- How many signals may come while a shell waits. -/
def mostStrikes : Nat := 1000

/-- When the next job will have ended that runs now. -/
def nextFinish : Run (Option Nat) := do
  let w := (← get).world
  let running := w.jobs.filter fun job => job.status.isNone
  return (running.filterMap Job.finish).min?

/-- Waits until a job has ended: the signal that comes before.  The number bounds how much happens
    before. -/
def awaitEnd (run : Runner) (job : Job) : Nat → Run (Option Nat)
  | 0 => waitForEver
  | n + 1 => do
      ripen run
      settleAll run
      let job := (← jobOf? job.process).getD job
      if job.status.isSome then return none
      else
        match ← pauseUntil (← nextFinish) mostStrikes with
        | some signal => return some signal
        | none =>
            let pending := (← shell).pending.length
            deliver
            match (← shell).pending.drop pending with
            | name :: _ => return Signal.ofText? name
            | [] => awaitEnd run job n

/-- How much may happen while a shell waits. -/
def mostEvents : Nat := 10000

/-- Waits for a job: its status, or that of a signal that comes before. -/
def waitFor (run : Runner) (job : Job) (tells : Bool) : Run (Nat × Bool) := do
  if let some signal ← awaitEnd run job mostEvents then return (128 + signal, true)
  let job := (← jobOf? job.process).getD job
  if tells then
    if let some text := job.signal.bind Signal.obituary? then tell (text ++ "\n")
  modifyJob job fun job => { job with signal := none, noticed := true, waited := true }
  return (job.status.getD 0, false)

/-- Waits for all jobs, or for some: the status of the last of these.  A signal on which something
    is to be done ends it. -/
def waitForJobs (run : Runner) (processes : List Nat) : Run Unit := do
  if processes.isEmpty then
    finish 0
    for slot in (← shell).slots do
      if let some job ← jobOf? slot.process then
        let (status, struck) ← waitFor run job false
        if struck then
          finish status
          return
    if (← shell).traps.lookup "CHLD" |>.any (· ≠ "") then receive 17
  else
    for process in processes do
      match (← shell).slots.find? (·.process = process), ← jobOf? process with
      | some _, some job =>
          let (status, struck) ← waitFor run job true
          finish status
          if struck then return
      | _, _ => finish 127

/-- Whether the output of a job goes to a pipe. -/
def holdsPipe (w : World) (pipe : Nat) (job : Job) : Bool :=
  let elsewhere := job.command.firstRedirections.any fun
    | .file stream .. | .duplicate stream _ | .here stream .. => stream = 1
  !elsewhere && (job.shell.streams.lookup 1).any fun number =>
    match w.opened[number]?.map Opened.target with
    | some (.pipe other) => other = pipe
    | _ => false

/-- Waits for the jobs whose output goes to a pipe. -/
def awaitHolders (run : Runner) (pipe : Nat) : Run Unit := do
  let w := (← get).world
  for job in w.jobs do
    if job.status.isNone && holdsPipe w pipe job then
      let _ ← awaitEnd run job mostEvents

/-! ## Pipelines -/

/-- How many commands may run, at least, when a reader starts. -/
def readersBudget : Nat := 20000

/-- Runs a command of a pipeline: whether it has ended before the deadline. -/
def endsInTime (run : Runner) (reading writing : Option Nat) (command : Command) : Run Bool := do
  let body := isolated run do
    if reading.isSome then lead 0 reading
    if writing.isSome then lead 1 writing
    run command
  match ← ending body with
  | none => return true
  | some .killed =>
      modifyWorld fun w => { w.at w.deadline with budget := max w.budget readersBudget }
      return false
  | some stop => throw stop

/-- Runs the commands of a pipeline from a moment on: whether all have ended before the deadline,
    and when the last of them has. -/
def chain (run : Runner) (capacity start : Nat) (reading : Option Nat) :
    List Command → Run (Bool × Nat)
  | [] => return (true, start)
  | [command] => do
      rewind start
      return (← endsInTime run reading none command, ← now)
  | command :: rest => do
      rewind start
      if ← startsProgram command then rest.forM fun later => openAhead later.firstRedirections
      let (pipe, next, writing) ← addPipe capacity
      let ended ← endsInTime run reading (some writing) command
      if ended then awaitHolders run pipe
      let finish ← now
      modifyPipes fun pipes => pipes.modify pipe fun p => { p with readyAt := finish }
      let (othersEnded, last) ← chain run capacity start (some next) rest
      modifyPipes fun pipes => pipes.modify pipe fun p => { p with data := .empty }
      return (ended && othersEnded, max finish last)

/-- How many commands may run while a program starts. -/
def mostHaste : Nat := 100

/-- Runs the last command of a pipeline before the others, if they are programs, which take a while
    to start, and it starts none and wants nothing of what they write.  Tells whether it has run; if
    not, nothing has happened. -/
def hasten (run : Runner) (commands : List Command) : Run Bool := fun s =>
  let others := commands.dropLast
  let plain := others.all fun command => command.firstRedirections.all fun
    | .duplicate .. => true
    | _ => false
  let body (last : Command) : Run Bool := do
    if others.isEmpty || !plain || s.shell.options.traces then return false
    if ← startsProgram last then return false
    unless ← others.allM startsProgram do return false
    let (pipe, next, _) ← addPipe 0
    modifyPipes fun pipes => pipes.modify pipe fun p => { p with cut := true }
    let budget := min s.world.budget mostHaste
    modifyWorld fun w => { w with budget }
    isolated run do
      lead 0 (some next)
      run last
    modifyWorld fun w => { w with budget := s.world.budget - (budget - w.budget) }
    return (← get).world.processes = s.world.processes
  match commands.getLast?.map fun last => body last s with
  | some (.ok true, after) => (.ok true, after)
  | _ => (.ok false, s)

/-- Runs a pipeline once. -/
def attempt (run : Runner) (commands : List Command) (capacity : Nat) : Run Unit := do
  let start ← now
  let hasty ← hasten run commands
  let result ← shell
  let remaining := if hasty then commands.dropLast ++ [.nothing] else commands
  let (ended, last) ← chain run capacity start none remaining
  if hasty then
    modifyShell fun s => { s with status := result.status, endedBy := result.endedBy }
  if ended then rewind last else waitForEver

/-- Runs a pipeline with the first capacity that is enough for all its readers. -/
def attempts (run : Runner) (commands : List Command) : List Nat → Run Unit
  | [] => waitForEver
  | capacity :: more => fun s =>
      match attempt run commands capacity s with
      | (.error (.starved pipe), s') =>
          if s.world.pipes.size ≤ pipe then attempts run commands more s
          else (.error (.starved pipe), s')
      | result => result

/-- Runs a pipeline. -/
def pipeline (run : Runner) (commands : List Command) : Run Unit :=
  attempts run commands [Nat.pow 2 14, Nat.pow 2 20, Pipe.greatest]

/-! ## Substitutions -/

/-- A text without the line ends at its end. -/
def withoutLineEnds (text : String) : String :=
  String.ofList (text.toList.reverse.dropWhile (· = '\n')).reverse

/-- What a command writes to its output, without zero bytes and without line ends at the end. -/
def capture (run : Runner) (command : Command) : Run String := do
  ripen run
  let status := (← shell).status
  let (pipe, _, writing) ← addPipe Pipe.greatest
  subshell run do
    lead 1 (some writing)
    modifyShell fun s => { s with lenient := false }
    run command
  awaitHolders run pipe
  let (data, _) ← unreadOf pipe
  modifyPipes fun pipes => pipes.modify pipe fun p => { p with data := .empty }
  modifyShell fun s => { s with substituted := s.status, status }
  return withoutLineEnds ((ByteText.ofBytes data).replace "\x00" "")

end Run

end WasmBinary.Machine.Script
