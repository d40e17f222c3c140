/-
  Machines to start with.

  A fresh machine has the devices, the tools, and one workplace: a directory with scripts, plain
  texts, and an empty directory for temporary files.  The scripts stand in for reference compilers:
  they answer, complain, hang or die as they are written to.
-/
import WasmBinary.Machine.Accounts
import WasmBinary.Machine.Script.Execute
import WasmBinary.Machine.System

namespace WasmBinary.Machine

/-- The content of an executable script with a body. -/
def scriptText (body : String) : String := "#!/bin/sh\n" ++ body ++ "\n"

/-- The name of the directory for temporary files in a workplace. -/
def scratchFolder : String := "scratch"

/-- The variables that users have at a workplace. -/
def standardEnvironment (workplace : String) : List (String × String) :=
  [("HOME", "/root"), ("PATH", Script.Meaning.standardPath),
    ("TMPDIR", joined workplace scratchFolder)]

namespace Files

/-- Makes nodes with names in a directory. -/
def makeAll (files : Files) (place : Nat) (entries : List (String × Node)) : Files :=
  entries.foldl (fun files (name, node) => (files.make place name node).2) files

/-- Everything that is there belongs to the system from now on. -/
def asSystem (files : Files) : Files :=
  { files with nodes := files.nodes.map fun node => { node with owner := .system } }

/-- Gives the directory of a path a mode. -/
def withMode (files : Files) (path : List String) (mode : Nat) : Files :=
  let (place, files) := files.ensure 0 path
  files.modify place fun node => { node with mode }

/-- Makes nodes with names in the directory of a path, which is made where it is not there. -/
def makeIn (files : Files) (path : List String) (entries : List (String × Node)) : Files :=
  let (place, files) := files.ensure 0 path
  files.makeAll place entries

/-- The files of every machine. -/
def standard : Files :=
  let device (device : Device) : Node := { content := .device device, mode := 0o666 }
  let tool (name : String) : Node := { content := .tool name, mode := 0o755 }
  Files.empty
    |>.makeIn ["dev"] [("null", device .null), ("zero", device .zeros), ("full", device .full),
        ("random", device .zeros), ("urandom", device .zeros), ("tty", device .terminal)]
    |>.makeIn ["usr", "bin"] (Script.Tool.names.map fun name => (name, tool name))
    |>.makeIn ["usr", "sbin"] []
    |>.makeIn ["usr", "local", "bin"] []
    |>.makeIn ["usr", "local", "sbin"] []
    |>.makeIn ["usr", "lib"] []
    |>.makeIn ["usr", "share"] []
    |>.makeIn ["etc"]
      [("passwd", .plain Account.listing.toUTF8), ("group", .plain Account.groupListing.toUTF8)]
    |>.makeIn ["tmp"] []
    |>.makeIn ["var", "tmp"] []
    |>.makeIn ["home"] []
    |>.makeIn ["root"] []
    |>.makeIn [] [("bin", .linkTo "usr/bin"), ("sbin", .linkTo "usr/sbin"),
        ("lib", .linkTo "usr/lib")]
    |>.withMode ["tmp"] 0o1777
    |>.withMode ["var", "tmp"] 0o1777
    |>.withMode ["root"] 0o700
    |>.asSystem

end Files

/-- The names that a path leads through. -/
def namesOf (path : String) : List String := (path.splitOn "/").filter (· ≠ "")

/-- A machine with one workplace, for users with the given variables. -/
def fresh (workplace : String) (environment scripts texts : List (String × String)) : Machine :=
  let files := Files.standard
    |>.makeIn (namesOf workplace) (texts.map fun (name, text) =>
        (ByteText.ofText name, .plain text.toUTF8))
    |>.makeIn (namesOf workplace) (scripts.map fun (name, body) =>
        (ByteText.ofText name, .plain (scriptText body).toUTF8 0o755))
    |>.makeIn (namesOf workplace ++ [scratchFolder]) []
  { files
    environment := environment.map fun (name, value) =>
      (ByteText.ofText name, ByteText.ofText value) }

/-- How many entries the directory for temporary files has. -/
def leftovers (machine : Machine) (workplace : String) : Nat :=
  match machine.files.findNode 0 (joined workplace scratchFolder) with
  | .ok node => node.names.length
  | .error _ => 0

end WasmBinary.Machine
