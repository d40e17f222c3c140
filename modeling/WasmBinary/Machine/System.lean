/-
  A machine: files, users' variables, and programs that do something to files.

  A MACHINE is a system that a compiler can be run on.  What its programs do is a parameter
  (`Machine.Programs`): a machine knows which files can be run, and leaves it to that parameter what
  happens when one is.  So nothing that is shown about compilers on machines depends on the
  programs that are there.

  1. **Finding programs** — a program whose name has several parts is a path; any other is looked
     for in the directories of the search path, in order.  It has to be a file that can be run.

  2. **Scratch directories** — there is one name for them, which no other file has.  They are made
     where temporary files go, and are gone with everything in them when their name is.
-/
import WasmBinary.Compiler
import WasmBinary.Machine.Files

namespace WasmBinary

/-- A machine: its files, the variables of its users, and the directory that they work in. -/
structure Machine where
  files : Machine.Files
  environment : List (String × String) := []
  directory : Nat := 0
  directoryPath : String := "/"

namespace Machine

/-! ## Programs -/

/-- What a program is started with. -/
structure Launch where
  environment : List (String × String)
  /-- The number of the directory that it starts in, and its path. -/
  directory : Nat
  directoryPath : String
  program : String
  arguments : List String
  /-- The numbers of the nodes that the standard streams lead to. -/
  streams : List Nat

/-- What the programs of a machine do to its files. -/
abbrev Programs := Launch → Files → Except FileFault (Child Files)

/-! ## Finding programs -/

/-- A path behind a directory. -/
def joined (directory path : String) : String :=
  if path.startsWith "/" then path
  else if directory = "" || directory.endsWith "/" then directory ++ path
  else directory ++ "/" ++ path

/-- How many parts a path has: the root, the names, and a dot in front of them. -/
def partCount (path : String) : Nat :=
  let names := (path.splitOn "/").filter fun name => name ≠ "" && name ≠ "."
  let front := if path.startsWith "/" || path = "." || path.startsWith "./" then 1 else 0
  front + names.length

/-- A directory of the search path, where a tilde in front stands for the home of the user. -/
def searchedDirectory (machine : Machine) (directory : String) : String :=
  match directory.splitOn "/" with
  | "~" :: rest =>
      let names := rest.filter fun name => name ≠ "" && name ≠ "."
      names.foldl joined ((machine.environment.lookup "HOME").getD "")
  | _ => directory

/-- The path of a program that can be run. -/
def locate? (machine : Machine) (program : String) : Option String :=
  let runnable (path : String) : Option String :=
    if machine.files.executable? machine.directory path then some path else none
  if 1 < partCount program then runnable (joined machine.directoryPath program)
  else
    ((machine.environment.lookup "PATH").getD "" |>.splitOn ":").findSome? fun directory =>
      runnable (joined (machine.searchedDirectory directory) program)

/-! ## Scratch directories -/

/-- The name of a scratch directory. -/
def scratchName : String := ".tmp000000"

/-- Where temporary files go. -/
def temporaryPath (machine : Machine) : String :=
  joined machine.directoryPath ((machine.environment.lookup "TMPDIR").getD "/tmp")

/-- The directory that holds temporary files. -/
def temporary (machine : Machine) : Except FileFault Nat := do
  let place ← machine.files.find machine.directory machine.temporaryPath
  if machine.files.isDirectory place then return place else .error .notADirectory

/-- Makes a scratch directory: its path, or the path where it cannot be made. -/
def makeScratch (machine : Machine) : Except (String × FileFault) (String × Machine) :=
  let scratch := joined machine.temporaryPath scratchName
  match machine.temporary with
  | .error fault => .error (scratch, fault)
  | .ok place =>
      .ok (scratch,
        { machine with files := (machine.files.makeDirectory place scratchName).2 })

/-- Takes the scratch directory away, if temporary files can still be reached. -/
def removeScratch (machine : Machine) : Machine :=
  match machine.temporary with
  | .error _ => machine
  | .ok place => { machine with files := machine.files.unlink place scratchName }

/-! ## The system -/

/-- Starts a program, which reads nothing and writes only to a file for errors. -/
def start (programs : Programs) (machine : Machine) (program : String) (arguments : List String)
    (errors : String) : Except FileFault (Child Machine) := do
  let nothing := (machine.files.find 0 "/dev/null").toOption.getD 0
  let stream ← machine.files.find machine.directory errors
  let child ← programs
    { environment := machine.environment
      directory := machine.directory
      directoryPath := machine.directoryPath
      program
      arguments
      streams := [nothing, nothing, stream] } machine.files
  return fun moment =>
    let (seen, files) := child moment
    (seen, { machine with files })

/-- A machine as a system for compilers. -/
def system (programs : Programs) : System Machine where
  locate? := locate?
  makeScratch := makeScratch
  removeScratch machine _ := machine.removeScratch
  write machine path data :=
    (machine.files.write machine.directory path data).map fun files => { machine with files }
  read machine path := machine.files.read machine.directory path
  start := start programs

end Machine

end WasmBinary
