/-
  What running scripts have.

  1. **Options** of shells have a name, and most have a letter.  Some change what the shell does;
     the others are only remembered.

  2. **The world** is shared by all processes: the files, what is open, the pipes, the clock, and
     the jobs in the background.

  3. **A shell** has its own variables, functions, streams, working directory and options.  A
     subshell starts with those of its parent and changes none of them.

  4. **Time** — only waiting takes time.  There is a deadline; when the clock reaches it, whoever
     runs is stopped there, and what was done before stays done.  Commands are counted as well, so
     that what never ends and never waits is stopped too.

  5. **Pipes** hold only so much.  Who writes more than that is stopped, because his readers may
     not want it; if they do, all of it happens again with a pipe that holds more.

  6. **Stops** — a computation ends early by `exit`, by `return`, by an error, by the deadline,
     because nobody reads what it writes, or to leave or restart a loop.  The state survives all
     of these.
-/
import WasmBinary.Machine.Files
import WasmBinary.Machine.Script.Basic

namespace WasmBinary.Machine.Script

/-! ## Options -/

/-- What a shell does beside running commands, as its options ask. -/
structure Options where
  /-- A command that fails ends the shell. -/
  exits : Bool := false
  /-- A parameter without a value is an error. -/
  insists : Bool := false
  /-- Commands are shown before they run. -/
  traces : Bool := false
  /-- Lines are shown as they are read. -/
  echoes : Bool := false
  /-- Patterns are not replaced by the names of files. -/
  plain : Bool := false
  /-- Every variable that is assigned is exported. -/
  exports : Bool := false
  /-- Commands are read but not run. -/
  idles : Bool := false
  /-- Files that are there are not replaced. -/
  keeps : Bool := false
  /-- The names of the other options that are on. -/
  others : List String := []

namespace Options

/-- The options in their order: names, and letters where there are any. -/
def table : List (String × Option Char) :=
  [ ("errexit", some 'e'), ("noglob", some 'f'), ("ignoreeof", some 'I'),
    ("interactive", some 'i'), ("monitor", some 'm'), ("noexec", some 'n'), ("stdin", some 's'),
    ("xtrace", some 'x'), ("verbose", some 'v'), ("vi", some 'V'), ("emacs", some 'E'),
    ("noclobber", some 'C'), ("allexport", some 'a'), ("notify", some 'b'),
    ("nounset", some 'u'), ("privileged", some 'p'), ("nolog", none), ("debug", none) ]

/-- Whether an option is on. -/
def has (o : Options) (name : String) : Bool :=
  match name with
  | "errexit" => o.exits
  | "noglob" => o.plain
  | "noexec" => o.idles
  | "xtrace" => o.traces
  | "verbose" => o.echoes
  | "noclobber" => o.keeps
  | "allexport" => o.exports
  | "nounset" => o.insists
  | _ => o.others.contains name

/-- Switches an option.  Of the two kinds of editing, at most one is on. -/
def switch (o : Options) (name : String) (on : Bool) : Options :=
  match name with
  | "errexit" => { o with exits := on }
  | "noglob" => { o with plain := on }
  | "noexec" => { o with idles := on }
  | "xtrace" => { o with traces := on }
  | "verbose" => { o with echoes := on }
  | "noclobber" => { o with keeps := on }
  | "allexport" => { o with exports := on }
  | "nounset" => { o with insists := on }
  | _ =>
      let rival := if name = "vi" then "emacs" else if name = "emacs" then "vi" else ""
      let others := o.others.filter fun other => other ≠ name && !(on && other = rival)
      { o with others := if on then name :: others else others }

/-- The letters of the options that are on, the last one first. -/
def letters (o : Options) : String :=
  String.ofList <| table.reverse.filterMap fun (name, letter) =>
    if o.has name then letter else none

/-- The name of the option of a letter. -/
def nameOf? (letter : Char) : Option String :=
  (table.find? fun entry => entry.2 = some letter).map (·.1)

end Options

/-! ## What is open -/

/-- What a stream leads to. -/
inductive Target
  | node (number : Nat)
  | pipe (number : Nat)
deriving DecidableEq, Repr

/-- A file or pipe that was opened.  Streams that lead to the same opening share its position. -/
structure Opened where
  target : Target
  /-- How many bytes into the file the next access is. -/
  position : Nat := 0
  /-- Whether everything written goes to the end. -/
  appends : Bool := false
  reads : Bool := true
  writes : Bool := true

/-- What was written to a pipe, and how much of it was read. -/
structure Pipe where
  data : ByteArray := .empty
  taken : Nat := 0
  /-- How many bytes it can hold. -/
  capacity : Nat
  /-- Whether its writer would have written more. -/
  cut : Bool := false
  /-- When its writer had ended. -/
  readyAt : Nat := 0

/-- The most bytes that any pipe holds. -/
def Pipe.greatest : Nat := Nat.pow 2 23

/-- What a tool has read from without coming to an end. -/
inductive Flood
  | none
  | device
  | pipe (number : Nat)
deriving DecidableEq, Repr

/-! ## Shells -/

/-- A variable.  It may be marked without having a value. -/
structure Variable where
  value : Option String := none
  exported : Bool := false
  fixed : Bool := false
deriving Inhabited

/-- What a shell knows about a job: its place among the jobs, its process, and of how many commands
    the pipeline consists. -/
structure Slot where
  place : Nat
  process : Nat
  stages : Nat := 1
deriving Inhabited

/-- What a function brings back when it ends. -/
structure Frame where
  bindings : List (String × Option Variable) := []
  options : Option Options := none

/-- Where the program of a name was found. -/
structure Remembered where
  /-- The place of its directory in the search path. -/
  place : Nat
  /-- Whether the directory has changed since. -/
  stale : Bool := false

/-- A shell. -/
structure Shell where
  /-- What the script is called. -/
  name : String := "sh"
  arguments : List String := []
  bindings : List (String × Variable) := []
  functions : List (String × Command) := []
  /-- The streams with the numbers of what they lead to. -/
  streams : List (Nat × Nat) := []
  directory : Nat := 0
  directoryPath : String := "/"
  options : Options := {}
  /-- The status of the last command. -/
  status : Nat := 0
  /-- The status of the last substitution of a command. -/
  substituted : Nat := 0
  /-- The line of the command that runs. -/
  line : Nat := 1
  /-- The line up to which the script has been read. -/
  readTo : Nat := 1
  /-- The command that complaints name after the line, if they do. -/
  caller : Option String := none
  loops : Nat := 0
  /-- What the functions that run bring back, the innermost first. -/
  frames : List Frame := []
  /-- Texts that words at the front of commands stand for. -/
  aliases : List (String × String) := []
  /-- Programs that were looked for, with the places of their directories in the search path. -/
  hashed : List (String × Remembered) := []
  /-- The limits that were set, by their letters. -/
  limits : List (Char × String) := []
  /-- What to do on exit and on signals. -/
  traps : List (String × String) := []
  /-- The signals that have come and for which there is something to do. -/
  pending : List String := []
  /-- The status that a shell leaves with, while it does what it does on exit. -/
  leaving : Option Nat := none
  /-- Whether it is being asked if a command succeeds, so that a failure is no reason to exit. -/
  lenient : Bool := false
  /-- The process that was last put into the background. -/
  lastJob : Option Nat := none
  /-- Whether this is a subshell. -/
  inner : Bool := false
  /-- The number of the process. -/
  process : Nat := 1
  /-- The word that `getopts` comes to next, counted from one, and how far it is within the word in
      front of that.  It starts again where the word is the one before the first. -/
  optionIndex : Nat := 1
  optionPosition : Nat := 0
  /-- The signals that the process was started to ignore. -/
  ignored : List String := []
  /-- The processes that wait for this one, the nearest first, and the signals on which they do
      something. -/
  outer : List (Nat × List String) := []
  /-- The signals on which the shell around this subshell does something. -/
  handled : List String := []
  /-- The jobs that the shell knows, the latest first. -/
  slots : List Slot := []
  /-- Whether this is the process of a shell, which arranges variables in its own way. -/
  arranges : Bool := false
  /-- How much less urgent the process is than others. -/
  niceness : Nat := 0
  /-- Whether it is told that a program was ended by a signal, and which one that was. -/
  tellsEnds : Bool := true
  endedBy : Option Nat := none

/-- The signals on which a shell does something. -/
def Shell.handledSignals (s : Shell) : List String :=
  if s.inner then s.handled else (s.traps.filter fun entry => entry.2 ≠ "").map (·.1)

/-- A shell in which `getopts` comes to a word next. -/
def Shell.atOption (s : Shell) (index : Nat) : Shell :=
  { s with optionIndex := index, optionPosition := 0 }

/-! ## The world -/

/-- A process in the background. -/
structure Job where
  process : Nat
  command : Command
  shell : Shell
  /-- Whether it has not come to run yet, and how many more commands could run when it started. -/
  fresh : Bool := true
  budget : Nat := 0
  /-- When it started, and when it will have ended; some never end. -/
  start : Nat
  finish : Option Nat
  /-- The status, once it has ended. -/
  status : Option Nat := none
  /-- The signal that it was ended by, until that is told. -/
  signal : Option Nat := none
  /-- The signal that it was ended by. -/
  endedBy : Option Nat := none
  /-- Whether its shell has noticed its end, and whether it was waited for. -/
  noticed : Bool := false
  waited : Bool := false
  /-- The pipe with a name that it cannot go on without, and whether it wants to write to it. -/
  blocked : Option (Nat × Bool) := none
  /-- What was known about such pipes when it last turned out that it cannot go on. -/
  tried : Option (Nat × Nat) := none
  /-- The signals that it sends to its shell, with the times, and how many of them have come. -/
  strikes : List (Nat × Nat) := []
  delivered : Nat := 0

/-- What writers of a pipe with a name have written for one reader. -/
structure Session where
  node : Nat
  pipe : Nat
  /-- Whether the reader has come. -/
  taken : Bool := false
  /-- Whether it goes on for all readers and writers. -/
  kept : Bool := false

/-- What processes do with pipes that have names. -/
structure Queues where
  sessions : List Session := []
  /-- The nodes whose readers wait while writers run. -/
  offered : List Nat := []
  /-- The pipes that somebody else goes on writing to. -/
  held : List Nat := []
  /-- Whether a command of the background runs. -/
  behind : Bool := false
  /-- How often anything has changed. -/
  changes : Nat := 0

/-- A signal that is sent to a process, and to those that it has started, at the deadline. -/
structure Alarm where
  process : Nat
  signal : Nat
  name : String
  /-- The deadline behind it. -/
  next : Nat

/-- A signal to a process that waits for another one. -/
structure Letter where
  process : Nat
  signal : Nat
  moment : Nat

/-- What all processes share. -/
structure World where
  files : Files
  opened : Array Opened := #[]
  pipes : Array Pipe := #[]
  /-- The texts of all here documents. -/
  documents : Array Word := #[]
  /-- When everything is stopped. -/
  deadline : Nat
  /-- How many more commands may run. -/
  budget : Nat
  jobs : List Job := []
  processes : Nat := 1
  /-- The mode that is taken off new files. -/
  mask : Nat := 0o022
  /-- What the tool that runs has read from without coming to an end. -/
  flood : Flood := .none
  /-- Why the last output of the command that runs could not be written. -/
  unwritten : Option FileFault := none
  queues : Queues := {}
  letters : List Letter := []
  alarm : Option Alarm := none

/-- Milliseconds since the start.  The files know them, because they keep when they were changed. -/
def World.clock (w : World) : Nat := w.files.moment

/-- The world at another moment. -/
def World.at (w : World) (moment : Nat) : World := { w with files := { w.files with moment } }

/-- The mode of a new file: what is asked for, without what is taken off new files. -/
def World.modeOf (w : World) (mode : Nat) : Nat := mode - (mode &&& w.mask)

/-- A shell in its world. -/
structure State where
  world : World
  shell : Shell

/-- Why a computation does not go on. -/
inductive Stop
  | exited
  /-- An error that ends a shell. -/
  | failed
  /-- The deadline has come. -/
  | killed
  /-- A signal that ends the whole script. -/
  | signalled (signal : Nat)
  /-- Nobody would read what is written. -/
  | unread
  /-- A pipe does not hold enough. -/
  | starved (pipe : Nat)
  /-- Nobody is there at the other end of a pipe with a name. -/
  | blocked (node : Nat) (writing : Bool)
  | returned
  | leaveLoops (n : Nat)
  | restartLoop (n : Nat)
deriving DecidableEq, Repr

/-- A computation of a shell; its state outlives every stop. -/
abbrev Run := ExceptT Stop (StateM State)

namespace Run

/-- The shell. -/
def shell : Run Shell := return (← get).shell

/-- Changes the shell. -/
def modifyShell (f : Shell → Shell) : Run Unit :=
  modify fun s => { s with shell := f s.shell }

/-- Changes the world. -/
def modifyWorld (f : World → World) : Run Unit :=
  modify fun s => { s with world := f s.world }

/-- Changes the files, without keeping another copy of them. -/
def modifyFiles (f : Files → Files) : Run Unit :=
  modify fun s =>
    let ⟨⟨files, opened, pipes, documents, deadline, budget, jobs, processes, mask, flood,
      unwritten, queues, letters, alarm⟩, shell⟩ := s
    ⟨⟨f files, opened, pipes, documents, deadline, budget, jobs, processes, mask, flood,
      unwritten, queues, letters, alarm⟩, shell⟩

/-- Changes what is open, without keeping another copy of it. -/
def modifyOpened (f : Array Opened → Array Opened) : Run Unit :=
  modify fun s =>
    let ⟨⟨files, opened, pipes, documents, deadline, budget, jobs, processes, mask, flood,
      unwritten, queues, letters, alarm⟩, shell⟩ := s
    ⟨⟨files, f opened, pipes, documents, deadline, budget, jobs, processes, mask, flood,
      unwritten, queues, letters, alarm⟩, shell⟩

/-- Changes the pipes, without keeping another copy of them. -/
def modifyPipes (f : Array Pipe → Array Pipe) : Run Unit :=
  modify fun s =>
    let ⟨⟨files, opened, pipes, documents, deadline, budget, jobs, processes, mask, flood,
      unwritten, queues, letters, alarm⟩, shell⟩ := s
    ⟨⟨files, opened, f pipes, documents, deadline, budget, jobs, processes, mask, flood,
      unwritten, queues, letters, alarm⟩, shell⟩

/-- The files. -/
def files : Run Files := return (← get).world.files

/-! ## Time -/

/-- What happens at the deadline: the process is ended, unless it ignores the signal that ends it.
    The process that has started it may have something to do on that signal. -/
def expire : Run Unit := do
  modifyWorld fun w => w.at w.deadline
  let s ← get
  match s.world.alarm with
  | none => throw .killed
  | some alarm =>
      let own := s.shell.process = alarm.process
      let ignores := s.shell.ignored.contains alarm.name ||
        (own && s.shell.traps.lookup alarm.name = some "")
      let handled := if own then s.shell.handledSignals
        else (s.shell.outer.lookup alarm.process).getD []
      if !ignores && !handled.contains alarm.name then throw .killed
      modifyWorld fun w => { w with alarm := none, deadline := alarm.next }
      unless ignores do
        let letter : Letter :=
          { process := alarm.process, signal := alarm.signal, moment := s.world.clock }
        modifyWorld fun w => { w with letters := w.letters ++ [letter] }
        unless own && !s.shell.inner do throw (.signalled alarm.signal)

/-- Sets the clock, up to the deadline. -/
def waitUntil (moment : Nat) : Run Unit := do
  if (← get).world.deadline ≤ moment then
    let letters := (← get).world.letters.length
    expire
    let w := (← get).world
    if letters < w.letters.length then return
    if w.deadline ≤ moment then expire
  modifyWorld fun w => w.at (max w.clock moment)

/-- Lets time pass. -/
def wait (milliseconds : Nat) : Run Unit := do
  waitUntil ((← get).world.clock + milliseconds)

/-- Waits for what never comes. -/
def waitForEver {α : Type} : Run α := do
  expire
  modifyWorld fun w => w.at w.deadline
  throw .killed

/-- Counts a command.  When too many have run, the deadline has come. -/
def spend : Run Unit := do
  let budget := (← get).world.budget
  if budget = 0 then waitForEver
  else modifyWorld fun w => { w with budget := budget - 1 }

/-! ## Status -/

/-- Sets the status of the command that just ran. -/
def finish (status : Nat) : Run Unit :=
  modifyShell fun s => { s with status }

/-- Succeeds or fails. -/
def finishWith (success : Bool) : Run Unit := finish (if success then 0 else 1)

/-! ## Variables -/

/-- What is known about a variable. -/
def entryOf? (name : String) : Run (Option Variable) :=
  return (← shell).bindings.lookup name

/-- Puts a variable in place of what had its name. -/
def putVariable (name : String) (v : Variable) : Run Unit :=
  modifyShell fun s =>
    { s with bindings := (name, v) :: s.bindings.filter fun entry => entry.1 ≠ name }

/-- Takes a variable away. -/
def dropVariable (name : String) : Run Unit :=
  modifyShell fun s =>
    { s with bindings := s.bindings.filter fun entry => entry.1 ≠ name }

/-- The value of a variable, where it has one. -/
def valueOf? (name : String) : Run (Option String) :=
  return (← entryOf? name).bind (·.value)

/-- The characters that split fields. -/
def separators : Run String := return (← valueOf? "IFS").getD " \t\n"

/-- Runs something, and however it ends, makes the shell of what it was before and after. -/
def keepingShell {α : Type} (keep : Shell → Shell → Shell) (run : Run α) : Run α := fun s =>
  let before := s.shell
  let (result, after) := run s
  (result, { after with shell := keep before after.shell })

/-- Tells how something ended, if it ended early. -/
def ending (run : Run Unit) : Run (Option Stop) := fun s =>
  match run s with
  | (.ok (), s) => (.ok none, s)
  | (.error stop, s) => (.ok (some stop), s)

end Run

end WasmBinary.Machine.Script
