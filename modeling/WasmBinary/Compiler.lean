/-
  A reference compiler: a program that is run on a text.

  1. **The system** — `System` is what running a program takes from the outside: programs that can
     be found, directories for scratch files, files, and programs that run beside us.  Nothing is
     said here about how these come about, so what holds of a compiler holds on every system.

  2. **Compiling** — the program is looked for; a scratch directory is made; the text is put into it
     with an empty file for complaints; and the program is called with the path of the text, `-o`,
     and the path where it is to put the bytes.  The scratch directory is taken away afterwards,
     however it went (`ReferenceCompiler.attempt`).

  3. **Waiting** — every ten milliseconds, from its start on, it is looked whether the program has
     ended, and then whether its time is over (`Child.watch`).  So it may run up to the first of
     these moments at or after its time limit, and it is enough to look at it then
     (`deadline`).

  4. **The answer** — bytes need a program that ended with status zero and left the file.  Every
     other course is a reason for having none (`CompilerFault`); of what a failing program
     complained about, at most 1024 characters are told.
-/
import WasmBinary.Audit.Oracle
import WasmBinary.FileFault
import WasmBinary.Journal.Record
import WasmBinary.Text.Blank
import WasmBinary.Text.ByteText
import WasmBinary.Text.Quoted

namespace WasmBinary

/-- A program that compiles the text format, with the milliseconds it may take. -/
structure ReferenceCompiler where
  program : String
  timeout : Nat
deriving DecidableEq, Repr

/-! ## Programs that run -/

/-- How a program ended. -/
inductive Ending
  | exited (status : Nat)
  | signalled (signal : Nat)
deriving DecidableEq, Repr

namespace Ending

/-- The names of the signals, from number one on. -/
def signalNames : List String :=
  ["HUP", "INT", "QUIT", "ILL", "TRAP", "ABRT", "BUS", "FPE", "KILL", "USR1", "SEGV", "USR2",
    "PIPE", "ALRM", "TERM", "STKFLT", "CHLD", "CONT", "STOP", "TSTP", "TTIN", "TTOU", "URG", "XCPU",
    "XFSZ", "VTALRM", "PROF", "WINCH", "IO", "PWR", "SYS"]

/-- How an end is told.  A signal without a name is told by its number alone. -/
def text : Ending → String
  | exited status => "exit status: " ++ toString status
  | signalled signal =>
      "signal: " ++ toString signal ++
        match ("" :: signalNames)[signal]? with
        | some "" | none => ""
        | some name => " (SIG" ++ name ++ ")"

end Ending

/-- What a look at a program shows. -/
inductive Sight
  | running
  | ended (ending : Ending)
  /-- Nothing can be learnt about the program. -/
  | lost (fault : FileFault)
deriving DecidableEq, Repr

/-- A program that was started: what a look at it shows so many milliseconds later, and the world as
    it is then. -/
abbrev Child (W : Type) := Nat → Sight × W

/-- How many milliseconds lie between two looks at a running program. -/
def interval : Nat := 10

/-- Looks at a program from some moment on: until it is not running, or its time is over. -/
def Child.watch {W : Type} (child : Child W) (timeout moment : Nat) : Sight × W :=
  match child moment with
  | (.running, w) =>
      if timeout ≤ moment then (.running, w) else child.watch timeout (moment + interval)
  | seen => seen
termination_by timeout - moment
decreasing_by
  simp only [interval]
  omega

/-- The moment of the last look: the first one at or after the time limit. -/
def deadline (timeout : Nat) : Nat :=
  (timeout + interval - 1) / interval * interval

/-! ## Systems -/

/-- What running a compiler takes from a world outside.  Paths are byte texts. -/
structure System (W : Type) where
  /-- The path of a program that can be run. -/
  locate? : W → String → Option String
  /-- Makes a fresh directory: its path, or the path where it cannot be made. -/
  makeScratch : W → Except (String × FileFault) (String × W)
  /-- Takes such a directory away, with everything in it. -/
  removeScratch : W → String → W
  /-- Replaces the content of a file. -/
  write : W → String → ByteArray → Except FileFault W
  /-- The content of a file. -/
  read : W → String → Except FileFault ByteArray
  /-- Starts a program with arguments and a file for its error stream.  It has no other streams. -/
  start : W → (program : String) → (arguments : List String) → (errors : String) →
    Except FileFault (Child W)

/-! ## Faults -/

/-- Why a compiler has no bytes. -/
inductive CompilerFault
  | missing (program : String)
  | noScratch (path : String) (fault : FileFault)
  | unwritable (path : String) (fault : FileFault)
  | noErrors (path : String) (fault : FileFault)
  | notStarted (program : String) (fault : FileFault)
  | timedOut (milliseconds : Nat)
  | lost (fault : FileFault)
  | failed (program : String) (ending : Ending) (complaint : String)
  | unreadable (path : String) (fault : FileFault)
deriving DecidableEq, Repr

/-- How the lack of bytes is explained. -/
def CompilerFault.reason : CompilerFault → String
  | missing program => program ++ " not found: cannot find binary path"
  | noScratch path fault =>
      "cannot create scratch directory: " ++ fault.message ++ " at path " ++ Quoted.text path
  | unwritable path fault => "cannot write " ++ path ++ ": " ++ fault.message
  | noErrors path fault => "cannot create " ++ path ++ ": " ++ fault.message
  | notStarted program fault => "cannot run " ++ program ++ ": " ++ fault.message
  | timedOut milliseconds => "timed out after " ++ toString milliseconds ++ " ms"
  | lost fault => "cannot wait for child: " ++ fault.message
  | failed program ending complaint =>
      program ++ " failed (" ++ ending.text ++ "): " ++ complaint
  | unreadable path fault => "cannot read " ++ path ++ ": " ++ fault.message

/-- The most characters of a complaint that are told. -/
def longestComplaint : Nat := 1024

/-- What is told of an error stream: text without blanks around it, cut off. -/
def complaint (data : ByteArray) : String :=
  match String.fromUTF8? data with
  | some text => String.ofList ((Blank.trim text.toList).take longestComplaint)
  | none => ""

/-! ## Compiling -/

namespace ReferenceCompiler

/-- Where the text is put in a scratch directory. -/
def textIn (scratch : String) : String := scratch ++ "/module.wat"

/-- Where the bytes are expected in a scratch directory. -/
def bytesIn (scratch : String) : String := scratch ++ "/module.wasm"

/-- Where complaints go in a scratch directory. -/
def errorsIn (scratch : String) : String := scratch ++ "/stderr.txt"

/-- The arguments that a program is called with. -/
def arguments (scratch : String) : List String := [textIn scratch, "-o", bytesIn scratch]

/-- The record of a program that is about to be started. -/
def announcement (program scratch : String) : Journal :=
  [⟨.debug, .compiler,
    "running " ++ ByteText.toText program ++ " " ++ ByteText.toText (textIn scratch)⟩]

/-- What the last look at a program means for the bytes it was to leave. -/
def answerOf {W : Type} (system : System W) (timeout : Nat) (program scratch : String) (w : W) :
    Sight → Except CompilerFault Bytes
  | .running => .error (.timedOut timeout)
  | .lost fault => .error (.lost fault)
  | .ended ending =>
      if ending = .exited 0 then
        match system.read w (bytesIn scratch) with
        | .ok data => .ok data.toList
        | .error fault => .error (.unreadable (ByteText.toText (bytesIn scratch)) fault)
      else
        let errors := (system.read w (errorsIn scratch)).toOption.getD .empty
        .error (.failed (ByteText.toText program) ending (complaint errors))

/-- Starts a program on the text in a scratch directory, and waits for it: the answer, and the world
    behind it. -/
def launch {W : Type} (system : System W) (timeout : Nat) (program scratch : String) (w : W) :
    Except CompilerFault Bytes × W :=
  match system.start w program (arguments scratch) (errorsIn scratch) with
  | .error fault => (.error (.notStarted (ByteText.toText program) fault), w)
  | .ok child =>
      let (seen, after) := child (deadline timeout)
      (answerOf system timeout program scratch after seen, after)

/-- Compiles a text in a scratch directory: the answer, the records, and the world behind it. -/
def compileIn {W : Type} (system : System W) (timeout : Nat) (program wat scratch : String)
    (w : W) : Except CompilerFault Bytes × Journal × W :=
  match system.write w (textIn scratch) wat.toUTF8 with
  | .error fault => (.error (.unwritable (ByteText.toText (textIn scratch)) fault), [], w)
  | .ok written =>
      match system.write written (errorsIn scratch) .empty with
      | .error fault =>
          (.error (.noErrors (ByteText.toText (errorsIn scratch)) fault), [], written)
      | .ok ready =>
          let (answer, after) := launch system timeout program scratch ready
          (answer, announcement program scratch, after)

/-- Compiles a text, if the compiler is found and there is room for its files. -/
def attempt {W : Type} (compiler : ReferenceCompiler) (system : System W) (wat : String) (w : W) :
    Except CompilerFault Bytes × Journal × W :=
  match system.locate? w (ByteText.ofText compiler.program) with
  | none => (.error (.missing compiler.program), [], w)
  | some program =>
      match system.makeScratch w with
      | .error (path, fault) => (.error (.noScratch (ByteText.toText path) fault), [], w)
      | .ok (scratch, made) =>
          let (answer, journal, after) :=
            compileIn system compiler.timeout program wat scratch made
          (answer, journal, system.removeScratch after scratch)

/-- Compiles a text, and explains the lack of bytes. -/
def compile {W : Type} (compiler : ReferenceCompiler) (system : System W) (wat : String) (w : W) :
    (Journal × OracleAnswer) × W :=
  let (answer, journal, w) := compiler.attempt system wat w
  ((journal, answer.mapError fun fault => ⟨fault.reason⟩), w)

end ReferenceCompiler

end WasmBinary
