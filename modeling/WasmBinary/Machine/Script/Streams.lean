/-
  Opening files, and reading and writing what is open.

  1. **Opening** — a path is opened as a redirection asks.  The names of the standard streams open
     what these streams lead to once more.

  2. **Writing** — a file grows, a pipe takes what it can hold, and devices forget.  A write that
     is refused tells why.

  3. **Reading** — some readers take everything, some take what is there and pass it on, and some
     take a number of bytes or a line.  They differ in what they do where there is no end.
-/
import WasmBinary.Machine.Script.State

namespace WasmBinary.Machine

/-- So many zeros.  They are made from halves, so that many of them are made in few steps. -/
def zeroBytes (n : Nat) : ByteArray :=
  if n < 2 then ⟨Array.replicate n 0⟩
  else
    let half := zeroBytes (n / 2)
    let both := half ++ half
    if n % 2 = 1 then both.push 0 else both
termination_by n
decreasing_by omega

/-- Replaces bytes from a position on; a gap in front of it is filled with zeros. -/
def overwrite (position : Nat) (data content : ByteArray) : ByteArray :=
  if position = content.size then content ++ data
  else
    let filled := if content.size < position
      then content ++ zeroBytes (position - content.size) else content
    filled.extract 0 position ++ data ++ filled.extract (position + data.size) filled.size

namespace Script.Run

/-! ## Streams -/

/-- The fault of a stream that leads nowhere, or not in the direction asked for. -/
def badStream : FileFault := .other "Bad file descriptor"

/-- What a stream leads to, by its number. -/
def opening? (stream : Nat) : Run (Option Nat) :=
  return (← shell).streams.lookup stream

/-- What is open under a number. -/
def openedAt? (number : Nat) : Run (Option Opened) :=
  return (← get).world.opened[number]?

/-- Leads a stream to what is open under a number, or closes it. -/
def lead (stream : Nat) (number : Option Nat) : Run Unit :=
  modifyShell fun s =>
    let others := s.streams.filter fun entry => entry.1 ≠ stream
    { s with streams := match number with
        | some number => (stream, number) :: others
        | none => others }

/-- Opens something under a new number. -/
def addOpened (o : Opened) : Run Nat := do
  let number := (← get).world.opened.size
  modifyOpened (·.push o)
  return number

/-- Makes a pipe: its number, and the numbers under which it is open for reading and writing. -/
def addPipe (capacity : Nat) : Run (Nat × Nat × Nat) := do
  let pipe := (← get).world.pipes.size
  modifyPipes (·.push { capacity })
  let reading ← addOpened { target := .pipe pipe, writes := false }
  let writing ← addOpened { target := .pipe pipe, reads := false }
  return (pipe, reading, writing)

/-- The pipe that a number is open for. -/
def pipeOf? (number : Nat) : Run (Option Nat) := do
  match (← openedAt? number).map Opened.target with
  | some (.pipe pipe) => return some pipe
  | _ => return none

/-! ## Opening -/

/-- The stream that a path means, if it means one. -/
def streamOfPath? (path : String) : Option Nat :=
  match path with
  | "/dev/stdin" => some 0
  | "/dev/stdout" => some 1
  | "/dev/stderr" => some 2
  | _ =>
      let number := if path.startsWith "/dev/fd/" then path.toList.drop 8
        else if path.startsWith "/proc/self/fd/" then path.toList.drop 14 else []
      if number.isEmpty then none else (String.ofList number).toNat?

/-- What a path leads to, where it is opened: a node that may have to be made first. -/
def targetOf (path : String) (opening : Opening) : Run (Except FileFault Target) := do
  match streamOfPath? path with
  | some stream =>
      match ← opening? stream with
      | none => return .error .notFound
      | some number => return ((← openedAt? number).map Opened.target).elim (.error .notFound) .ok
  | none =>
      let w := (← get).world
      let start := (← shell).directory
      if opening = .input then
        match w.files.find start path with
        | .error fault => return .error fault
        | .ok i =>
            return if (w.files.node? i).any (·.allows .read) then .ok (.node i)
              else .error .permissionDenied
      else
        match w.files.spotForWriting start path with
        | .error fault => return .error fault
        | .ok spot =>
            match spot.node with
            | some i => return .ok (.node i)
            | none =>
                let made := w.files.nodes.size
                modifyFiles fun files =>
                  (files.make spot.directory spot.name (.plain .empty (w.modeOf 0o666))).2
                return .ok (.node made)

/-- What a path leads to, where something is there. -/
def meant (path : String) (through : Bool := true) : Run (Except FileFault Target) := do
  match streamOfPath? path with
  | some stream =>
      match ← opening? stream with
      | none => return .error .notFound
      | some number => return ((← openedAt? number).map Opened.target).elim (.error .notFound) .ok
  | none => return ((← files).find (← shell).directory path through).map .node

/-- The node that a path leads to; a pipe is one without a name. -/
def nodeMeant (path : String) (through : Bool := true) : Run (Except FileFault Node) := do
  match ← meant path through with
  | .error fault => return .error fault
  | .ok (.pipe _) => return .ok { content := .queue, mode := 0o600 }
  | .ok (.node i) => return ((← files).node? i).elim (.error .notFound) .ok

/-- Whether a path leads to a plain file that is there. -/
def isPlainFile (path : String) : Run Bool := do
  return ((← files).findNode (← shell).directory path).toOption.any Node.isPlain

/-- The pipes that the streams of this shell can write to. -/
def pipesWritten : Run (List Nat) := do
  let s ← get
  return s.shell.streams.filterMap fun (_, number) =>
    match s.world.opened[number]? with
    | some { target := .pipe pipe, writes := true, .. } => some pipe
    | _ => none

/-- Whether a node is a pipe with a name. -/
def isQueue (i : Nat) : Run Bool :=
  return match ((← files).node? i).map Node.content with
    | some .queue => true
    | _ => false

/-- Changes what processes do with pipes that have names. -/
def modifyQueues (f : Queues → Queues) : Run Unit :=
  modifyWorld fun w => { w with queues := f w.queues }

/-- Begins a session at a pipe with a name: its pipe. -/
def beginSession (i : Nat) (kept : Bool) : Run Nat := do
  let pipe := (← get).world.pipes.size
  let readyAt := (← get).world.clock
  modifyPipes (·.push { capacity := Nat.pow 2 20, readyAt })
  modifyQueues fun q =>
    { q with sessions := q.sessions ++ [{ node := i, pipe, kept }], changes := q.changes + 1 }
  return pipe

/-- The pipe that a writer of a pipe with a name gets.  There has to be a reader. -/
def pipeForWriting (i : Nat) : Run Nat := do
  let w := (← get).world
  let mine := w.queues.sessions.filter fun s => s.node = i
  let written ← pipesWritten
  let offered := w.queues.offered.contains i
  match mine.find? fun s => s.kept || (!s.taken && (offered || written.contains s.pipe ||
      w.queues.held.contains s.pipe)) with
  | some session => return session.pipe
  | none =>
      let read := (← get).shell.streams.any fun (_, number) =>
        match w.opened[number]? with
        | some { target := .pipe pipe, reads := true, .. } => mine.any fun s => s.pipe = pipe
        | _ => false
      let waiting := w.jobs.any fun job => job.status.isNone && job.blocked = some (i, false)
      if offered || read || waiting then beginSession i false else throw (.blocked i true)

/-- Opens a pipe with a name under a new number.  Who opens it waits until somebody is at its other
    end. -/
def openQueue (i : Nat) (opening : Opening) : Run Nat := do
  let sessions := (← get).world.queues.sessions.filter fun s => s.node = i
  match opening with
  | .both =>
      let pipe ← match sessions.find? (·.kept) with
        | some session => pure session.pipe
        | none => beginSession i true
      addOpened { target := .pipe pipe }
  | .input =>
      match sessions.find? fun s => s.kept || !s.taken with
      | none => throw (.blocked i false)
      | some session =>
          modifyQueues fun q =>
            { q with sessions := q.sessions.map fun s =>
                if s.pipe = session.pipe then { s with taken := true } else s }
          addOpened { target := .pipe session.pipe, writes := false }
  | _ => addOpened { target := .pipe (← pipeForWriting i), reads := false }

/-- Opens a path under a new number. -/
def openPath (path : String) (opening : Opening) (keeps : Bool := false) :
    Run (Except FileFault Nat) := do
  if keeps && opening = .replace && (← isPlainFile path) then return .error .alreadyThere
  match ← targetOf path opening with
  | .error fault => return .error fault
  | .ok target =>
      if let .node i := target then
        if ← isQueue i then return .ok (← openQueue i opening)
      if opening = .replace || opening = .insistently then
        if let .node i := target then modifyFiles fun files => files.change i fun _ => .empty
      return .ok (← addOpened {
        target
        appends := opening = .append
        reads := opening = .input || opening = .both
        writes := opening ≠ .input })

/-! ## Writing -/

/-- The size of a plain file. -/
def fileSize (i : Nat) : Run Nat := do
  match ((← files).node? i).map Node.content with
  | some (.data bytes) => return bytes.size
  | _ => return 0

/-- Writes to a pipe.  When it is full, the writer goes no further. -/
def writePipe (pipe : Nat) (data : ByteArray) : Run Unit := do
  modifyPipes fun pipes => pipes.modify pipe fun p =>
    let all := p.data ++ data
    { p with data := all, cut := p.cut || p.capacity < all.size }
  match (← get).world.pipes[pipe]? with
  | some p =>
      if Pipe.greatest < p.data.size then waitForEver
      else if p.cut then throw .unread
  | none => return

/-- Writes to what is open under a number: why it could not be done, if so. -/
def writeOpened (number : Nat) (data : ByteArray) : Run (Option FileFault) := do
  match ← openedAt? number with
  | none => return some badStream
  | some o =>
      if !o.writes then return some badStream
      else if data.isEmpty then return none
      else
        match o.target with
        | .pipe pipe =>
            writePipe pipe data
            return none
        | .node i =>
            if let some (.device device) := ((← files).node? i).map Node.content then
              return if device = .full then some .noSpace else none
            let position ← if o.appends then fileSize i else pure o.position
            modifyFiles fun files => files.change i (overwrite position data)
            modifyOpened (·.modify number fun o => { o with position := position + data.size })
            return none

/-- Writes to a stream: why it could not be done, if so. -/
def writeStream (stream : Nat) (data : ByteArray) : Run (Option FileFault) := do
  match ← opening? stream with
  | none => return if data.isEmpty then none else some badStream
  | some number => writeOpened number data

/-- Writes to the output.  A fault is kept for the end of the command. -/
def emit (text : String) : Run Unit := do
  if let some fault ← writeStream 1 (ByteText.toBytes text) then
    modifyWorld fun w => { w with unwritten := some fault }

/-- Writes to the error stream, if that is possible. -/
def tell (text : String) : Run Unit := do
  let _ ← writeStream 2 (ByteText.toBytes text)

/-! ## Reading -/

/-- The bytes of a pipe that nobody has read yet, and whether there would be more.  They are there
    when their writer has ended. -/
def unreadOf (pipe : Nat) : Run (ByteArray × Bool) := do
  match (← get).world.pipes[pipe]? with
  | none => return (.empty, false)
  | some p =>
      waitUntil p.readyAt
      return (p.data.extract p.taken p.data.size, p.cut)

/-- Takes bytes off the front of a pipe. -/
def takeFromPipe (pipe count : Nat) : Run Unit :=
  modifyPipes fun pipes => pipes.modify pipe fun p => { p with taken := p.taken + count }

/-- How many bytes the output takes before it is full.  What is no pipe is never full. -/
def room : Run (Option Nat) := do
  let some number ← opening? 1 | return none
  let some pipe ← pipeOf? number | return none
  return ((← get).world.pipes[pipe]?).map fun p => p.capacity + 1 - p.data.size

/-- How a reader deals with what has no end. -/
inductive Appetite
  /-- Takes everything before it does anything. -/
  | whole
  /-- Takes what is there, and passes it on. -/
  | flow
  /-- Takes so many bytes. -/
  | upTo (count : Nat)
  /-- Takes so many lines. -/
  | lines (count : Nat)
deriving DecidableEq, Repr

/-- How many bytes from a position on the next lines have, or nothing if they are not all there. -/
def linesExtent? (data : ByteArray) : (count : Nat) → (position : Nat) → Option Nat
  | 0, position => some position
  | count + 1, position =>
      match data.findIdx? (· = 10) position with
      | some i => linesExtent? data count (i + 1)
      | none => none

/-- How many bytes in front a reader wants, or nothing if he wants more than there are. -/
def Appetite.extent? (appetite : Appetite) (data : ByteArray) : Option Nat :=
  match appetite with
  | whole | flow => none
  | upTo count => if count ≤ data.size then some count else none
  | lines count => linesExtent? data count 0

/-- Reads zeros, of which there is no end. -/
def readZeros (appetite : Appetite) : Run ByteArray := do
  match appetite with
  | .upTo count => return zeroBytes (min count Pipe.greatest)
  | .whole | .lines _ => waitForEver
  | .flow =>
      match ← room with
      | none => waitForEver
      | some count =>
          modifyWorld fun w => { w with flood := .device }
          return zeroBytes count

/-- Waits for more than there is in a pipe, if somebody will write more. -/
def awaitMore (pipe : Nat) : Run Unit := do
  let q := (← get).world.queues
  if let some session := q.sessions.find? fun s => s.pipe = pipe then
    if (← pipesWritten).contains pipe then waitForEver
    else if q.held.contains pipe then throw (.blocked session.node false)

/-- Reads from what is open under a number. -/
def readOpened (number : Nat) (appetite : Appetite) : Run (Except FileFault ByteArray) := do
  match ← openedAt? number with
  | none => return .error badStream
  | some o =>
      if !o.reads then return .error badStream
      match o.target with
      | .pipe pipe =>
          let (data, cut) ← unreadOf pipe
          let wanted := appetite.extent? data
          if cut && wanted.isNone then
            if appetite = .flow then modifyWorld fun w => { w with flood := .pipe pipe }
            else throw (.starved pipe)
          if wanted.isNone then awaitMore pipe
          let extent := wanted.getD data.size
          takeFromPipe pipe extent
          return .ok (data.extract 0 extent)
      | .node i =>
          match ((← files).node? i).map Node.content with
          | some (.directory ..) => return .error .isADirectory
          | some (.device .null) => return .ok .empty
          | some (.device .terminal) => return .error .noDevice
          | some (.device _) => return .ok (← readZeros appetite)
          | some (.data content) =>
              let data := content.extract o.position content.size
              let data := data.extract 0 ((appetite.extent? data).getD data.size)
              modifyOpened (·.modify number fun o =>
                { o with position := o.position + data.size })
              return .ok data
          | _ => return .ok .empty

/-- Reads from a stream. -/
def readStream (stream : Nat) (appetite : Appetite) : Run (Except FileFault ByteArray) := do
  match ← opening? stream with
  | none => return .error badStream
  | some number => readOpened number appetite

/-- Reads from a file by its path. -/
def readPath (path : String) (appetite : Appetite) : Run (Except FileFault ByteArray) := do
  match ← openPath path .input with
  | .error fault => return .error fault
  | .ok number => readOpened number appetite

/-- How much is read from a pipe at once by those who read ahead. -/
def blockSize : Nat := 8192

/-- Drops what somebody who reads ahead has taken from a pipe behind the bytes that he used. -/
def readAhead (number used : Nat) : Run Unit := do
  if let some pipe ← pipeOf? number then
    takeFromPipe pipe ((used + blockSize - 1) / blockSize * blockSize - used)

/-- Goes back by some bytes that were read from a file.  What was read from a pipe is gone. -/
def giveBack (number count : Nat) : Run Unit := do
  if (← pipeOf? number).isNone then
    modifyOpened (·.modify number fun o => { o with position := o.position - count })

/-- Ends a tool that has read from something without an end: the reader of its output may want
    more, and a file would be written for ever. -/
def settleFlood : Run Unit := do
  let flood := (← get).world.flood
  unless flood = .none do
    modifyWorld fun w => { w with flood := .none }
    let some number ← opening? 1 | stay flood
    let some pipe ← pipeOf? number | stay flood
    modifyPipes fun pipes => pipes.modify pipe fun p => { p with cut := true }
    throw .unread
where
  /-- Asks for a pipe that holds more, if there is one. -/
  stay : Flood → Run Unit
    | .pipe pipe => throw (.starved pipe)
    | _ => waitForEver

end Script.Run

end WasmBinary.Machine
