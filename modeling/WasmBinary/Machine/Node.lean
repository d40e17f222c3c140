/-
  Nodes: what the names of files stand for.

  1. **Contents** — a node is a plain file, a tool that the machine knows by itself, a device, a
     link to a path, or a directory, which gives names to other nodes.

  2. **Rights** — a node belongs to the user or to the system, and its mode says what either may do
     with it.  The user is nobody special: of what belongs to the system he has the rights of all.

  3. **Times** — a node knows when it was changed last, and when it was used last.  Moments are
     counted in nanoseconds since the start of the year 1970.
-/
import WasmBinary.Bytes

namespace WasmBinary.Machine

/-- Nodes that are no files but behave like some. -/
inductive Device
  /-- Forgets what is written to it. -/
  | null
  /-- Zero bytes without end. -/
  | zeros
  /-- Zero bytes without end, and no room for anything. -/
  | full
  /-- The terminal, which is not there. -/
  | terminal
deriving DecidableEq, Repr

/-- What a node holds. -/
inductive Content
  | data (bytes : ByteArray)
  /-- A tool that the machine knows by a name. -/
  | tool (name : String)
  | device (device : Device)
  /-- Stands for the path that it holds. -/
  | link (target : String)
  /-- A pipe that has a name. -/
  | queue
  /-- Names with their nodes, and the directory that this one is in. -/
  | directory (entries : List (String × Nat)) (parent : Nat)

/-- Who a node belongs to. -/
inductive Owner
  | user
  | system
deriving DecidableEq, Repr

/-- What can be asked for: to read, to write, or to run a file or look into a directory. -/
inductive Right
  | read
  | write
  | run
deriving DecidableEq, Repr

/-- What a name may stand for. -/
structure Node where
  content : Content
  /-- The rights, as twelve bits. -/
  mode : Nat
  owner : Owner := .user
  changed : Int := 0
  used : Int := 0

namespace Node

/-- Whether the node is a directory. -/
def isDirectory (node : Node) : Bool :=
  match node.content with
  | .directory .. => true
  | _ => false

/-- Whether the node is a plain file, be it a tool. -/
def isPlain (node : Node) : Bool :=
  match node.content with
  | .data _ | .tool _ => true
  | _ => false

/-- Whether the node is a device. -/
def isDevice (node : Node) : Bool :=
  match node.content with
  | .device _ => true
  | _ => false

/-- The path that a link stands for. -/
def target? (node : Node) : Option String :=
  match node.content with
  | .link target => some target
  | _ => none

/-- Whether the node is a link. -/
def isLink (node : Node) : Bool := node.target?.isSome

/-- The names in a directory, with their nodes. -/
def entries (node : Node) : List (String × Nat) :=
  match node.content with
  | .directory entries _ => entries
  | _ => []

/-- The names in a directory. -/
def names (node : Node) : List String := node.entries.map (·.1)

/-- The directory that a directory is in. -/
def parent? (node : Node) : Option Nat :=
  match node.content with
  | .directory _ parent => some parent
  | _ => none

/-- How many bytes a node has. -/
def size (node : Node) : Nat :=
  match node.content with
  | .data bytes => bytes.size
  | .tool _ => 100000
  | .link target => target.length
  | .directory .. => 4096
  | .device _ | .queue => 0

/-- The bit of a right in a group of three. -/
def bitOf : Right → Nat
  | .read => 4
  | .write => 2
  | .run => 1

/-- Whether the mode gives the user a right. -/
def allows (node : Node) (right : Right) : Bool :=
  let bits := if node.owner = .user then node.mode >>> 6 else node.mode
  bits &&& bitOf right != 0

/-- Whether the node is a plain file that the user can run. -/
def isExecutable (node : Node) : Bool := node.isPlain && node.allows .run

/-- The letter for the kind of a node. -/
def kindLetter (node : Node) : Char :=
  match node.content with
  | .data _ | .tool _ => '-'
  | .device _ => 'c'
  | .link _ => 'l'
  | .queue => 'p'
  | .directory .. => 'd'

/-- The rights of a mode, three letters each for the owner, the group and all others. -/
def rightsText (mode : Nat) : String :=
  let three (bits : Nat) (special : Bool) (letter : Char) : List Char :=
    [ if bits &&& 4 != 0 then 'r' else '-', if bits &&& 2 != 0 then 'w' else '-',
      match bits &&& 1 != 0, special with
      | true, true => letter
      | false, true => letter.toUpper
      | true, false => 'x'
      | false, false => '-' ]
  String.ofList <| three (mode / 64 % 8) (mode &&& 0o4000 != 0) 's' ++
    three (mode / 8 % 8) (mode &&& 0o2000 != 0) 's' ++ three (mode % 8) (mode &&& 0o1000 != 0) 't'

/-- A plain file of the user. -/
def plain (bytes : ByteArray) (mode : Nat := 0o644) : Node := { content := .data bytes, mode }

/-- An empty directory in another one. -/
def folder (parent : Nat) (mode : Nat := 0o755) : Node := { content := .directory [] parent, mode }

/-- A link to a path. -/
def linkTo (target : String) : Node := { content := .link target, mode := 0o777 }

end Node

end WasmBinary.Machine
