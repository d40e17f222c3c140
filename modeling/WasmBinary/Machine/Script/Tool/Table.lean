/-
  The tools by their names.

  Some tools run other programs, and all of these are told how to start a program.  A program that
  cannot be started is not found, or is found and cannot be run; the status tells which.
-/
import WasmBinary.Machine.Script.Tool.Arguments
import WasmBinary.Machine.Script.Tool.Blocks
import WasmBinary.Machine.Script.Tool.Circumstances
import WasmBinary.Machine.Script.Tool.Coding
import WasmBinary.Machine.Script.Tool.Columns
import WasmBinary.Machine.Script.Tool.Comparing
import WasmBinary.Machine.Script.Tool.Concatenating
import WasmBinary.Machine.Script.Tool.Copying
import WasmBinary.Machine.Script.Tool.Counting
import WasmBinary.Machine.Script.Tool.Differing
import WasmBinary.Machine.Script.Tool.Digesting
import WasmBinary.Machine.Script.Tool.Edit
import WasmBinary.Machine.Script.Tool.Encodings
import WasmBinary.Machine.Script.Tool.Factors
import WasmBinary.Machine.Script.Tool.Facts
import WasmBinary.Machine.Script.Tool.Find.Search
import WasmBinary.Machine.Script.Tool.Lengths
import WasmBinary.Machine.Script.Tool.Magnitudes
import WasmBinary.Machine.Script.Tool.Numbering
import WasmBinary.Machine.Script.Tool.Occupying
import WasmBinary.Machine.Script.Tool.Orders
import WasmBinary.Machine.Script.Tool.Ownership
import WasmBinary.Machine.Script.Tool.Pages
import WasmBinary.Machine.Script.Tool.Paragraphs
import WasmBinary.Machine.Script.Tool.Parameters
import WasmBinary.Machine.Script.Tool.PathNames
import WasmBinary.Machine.Script.Tool.Portions
import WasmBinary.Machine.Script.Tool.Progressions
import WasmBinary.Machine.Script.Tool.Records
import WasmBinary.Machine.Script.Tool.Relating
import WasmBinary.Machine.Script.Tool.Remove
import WasmBinary.Machine.Script.Tool.Repeats
import WasmBinary.Machine.Script.Tool.Replacing
import WasmBinary.Machine.Script.Tool.Searching
import WasmBinary.Machine.Script.Tool.Sections
import WasmBinary.Machine.Script.Tool.Sorting
import WasmBinary.Machine.Script.Tool.Splitting
import WasmBinary.Machine.Script.Tool.Surroundings
import WasmBinary.Machine.Script.Tool.Values
import WasmBinary.Machine.Script.Tool.Widths

namespace WasmBinary.Machine.Script.Tool

open Run

/-- Leaves a status, whatever it is asked to do. -/
def constant (status : Nat) : Tool := fun _ _ => finish status

/-- The tools that make digests. -/
def digestTools : List (String × Tool) :=
  [ ("b2sum", digestsOf (.single .blake2b)), ("cksum", digestsOf .any),
    ("md5sum", digestsOf (.single .md5)), ("md5sum.textutils", digestsOf (.single .md5)),
    ("sha1sum", digestsOf (.single .sha1)), ("sha224sum", digestsOf (.single .sha224)),
    ("sha256sum", digestsOf (.single .sha256)), ("sha384sum", digestsOf (.single .sha384)),
    ("sha512sum", digestsOf (.single .sha512)), ("sum", digestsOf .sums) ]

/-- The tools that encode what is read. -/
def codeTools : List (String × Tool) :=
  [ ("base32", base32), ("base64", base64), ("basenc", encodeBytes), ("iconv", recode),
    ("od", dump) ]

/-- The tools that copy what is read, or parts of it. -/
def portionTools : List (String × Tool) :=
  [ ("cat", concatenate), ("csplit", cutSections), ("cut", cut), ("dd", copyBlocks),
    ("head", front), ("tac", backward), ("tail", back), ("tee", tee) ]

/-- The tools that lay out lines. -/
def layoutTools : List (String × Tool) :=
  [ ("expand", expandTabs), ("fmt", fillParagraphs), ("fold", fold), ("nl", numberLines),
    ("paste", paste), ("pr", layPages), ("rev", reverseLines), ("tr", transliterate),
    ("unexpand", unexpandBlanks) ]

/-- The tools that look for lines, or put them in an order. -/
def lineTools : List (String × Tool) :=
  [ ("egrep", fun _ words => grep "grep" ("-E" :: words)),
    ("fgrep", fun _ words => grep "grep" ("-F" :: words)), ("grep", grep),
    ("rgrep", fun _ words => grep "grep" ("-r" :: words)), ("shuf", mix), ("sort", sort),
    ("tsort", sortTopologically), ("uniq", unique), ("wc", count) ]

/-- The tools that compare files. -/
def comparingTools : List (String × Tool) :=
  [ ("cmp", compareFiles), ("comm", common), ("diff", differences), ("join", join),
    ("sdiff", sideBySide) ]

/-- The tools that compute. -/
def numberTools : List (String × Tool) :=
  [ ("expr", evaluate), ("factor", factor), ("numfmt", formatNumbers), ("seq", progression) ]

/-- The tools that tell about files. -/
def fileTools : List (String × Tool) :=
  [ ("[", test), ("df", freeSpace), ("dir", listColumns), ("du", occupied), ("ls", list),
    ("stat", facts), ("test", test), ("vdir", listLong) ]

/-- The tools that change files. -/
def changingTools : List (String × Tool) :=
  [ ("chcon", changeLabel), ("chgrp", changeGroup), ("chmod", changeMode), ("chown", changeOwner),
    ("cp", copy), ("install", install), ("link", linkName), ("ln", link),
    ("mkdir", makeDirectory), ("mkfifo", makeQueues), ("mknod", makeSpecial),
    ("mktemp", makeTemporary), ("mv", move), ("rm", remove), ("rmdir", removeDirectory),
    ("shred", shred), ("sync", store), ("touch", touch), ("truncate", truncate),
    ("unlink", unlinkName) ]

/-- The tools that work on the names of files. -/
def nameTools : List (String × Tool) :=
  [ ("basename", lastNames), ("dirname", directoryNames), ("pathchk", checkPaths),
    ("pwd", tellDirectory), ("readlink", linkTargets), ("realpath", wholePaths),
    ("which", programPaths) ]

/-- The tools that tell about the users and the machine. -/
def machineTools : List (String × Tool) :=
  [ ("arch", machineKind), ("date", date), ("groups", groupNames), ("hostid", machineNumber),
    ("id", identify), ("logname", loginName), ("nproc", processorCount), ("pinky", people),
    ("printenv", showEnvironment), ("stty", setTerminal), ("tty", terminalName),
    ("uname", systemName), ("users", loginNames), ("who", logins), ("whoami", userName) ]

/-- The tools that scripts have for themselves. -/
def scriptTools : List (String × Tool) :=
  [ ("dircolors", listColours), ("echo", echo), ("false", constant 1),
    ("getopt", takeParameters), ("printf", printf), ("runcon", runLabelled), ("sleep", sleep),
    ("true", constant 0), ("yes", repeatLine) ]

/-- The tools that run no other programs. -/
def table : List (String × Tool) :=
  digestTools ++ codeTools ++ portionTools ++ layoutTools ++ lineTools ++ comparingTools ++
    numberTools ++ fileTools ++ changingTools ++ nameTools ++ machineTools ++ scriptTools

/-- The tools that run other programs. -/
def callerNames : List String :=
  [ "awk", "dash", "env", "find", "mawk", "nawk", "nice", "nohup", "sed", "setsid", "sh", "split",
    "stdbuf", "timeout", "xargs" ]

/-- The names of all tools. -/
def names : List String := table.map (·.1) ++ callerNames

/-- Runs a tool to its end.  A tool fails if not all of its output could be written, and is ended
    by a signal if nobody reads it. -/
def perform (tool : Tool) (self : String) (arguments : List String) : Run Unit := do
  modifyWorld fun w => { w with unwritten := none, flood := .none }
  match ← ending (do tool self arguments; settleFlood) with
  | none =>
      if let some fault := (← get).world.unwritten then
        modifyWorld fun w => { w with unwritten := none }
        fail self ("write error: " ++ fault.words)
  | some .unread => finish 141
  | some .failed => return
  | some stop => throw stop

/-- The tool of a name that runs other programs. -/
def callerOf? (start : Starter) (name : String) : Option Tool :=
  match name with
  | "awk" | "mawk" | "nawk" => some (processRecords start)
  | "env" => some (environment start)
  | "find" => some (Find.find start)
  | "nice" => some (yielding start)
  | "nohup" => some (detach start)
  | "sed" => some (edit start)
  | "setsid" => some (inSession start)
  | "split" => some (splitFile start)
  | "stdbuf" => some (inRhythm start)
  | "timeout" => some (limited start)
  | "xargs" => some (withArguments start)
  | _ => none

end WasmBinary.Machine.Script.Tool
