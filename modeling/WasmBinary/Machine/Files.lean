/-
  Files: a tree of names, without an operating system.

  1. **Nodes** are kept in one array and known by their numbers.  A directory gives names to nodes,
     and a node may have several names, or none and still be open.

  2. **Paths** are byte texts.  A path is followed name by name from the root, or from a directory
     where it does not start with a slash.  Every name but the last has to lead to a directory
     that is there and that may be looked into; the last one may name something that is not there
     yet.  A path leads through so many links at most.

  3. **Changes** need the right to write to the directory whose names change, or to the file whose
     content does.

  4. **Faults** say why a path could not be followed or used.
-/
import WasmBinary.FileFault
import WasmBinary.Text.ByteText
import WasmBinary.Machine.Node

namespace WasmBinary.Machine

/-- The longest name that a path may have, in bytes. -/
def longestName : Nat := 255

/-- The longest path that can be handed to a file operation, in bytes. -/
def longestPath : Nat := 4095

/-- How many links a path may lead through. -/
def mostLinks : Nat := 40

/-- Where a path leads: a name in a directory, and the node of that name where there is one.  The
    name is empty where the path means the directory itself. -/
structure Spot where
  directory : Nat
  name : String
  node : Option Nat
  /-- Whether slashes follow the name, so that only a directory can be meant. -/
  slashed : Bool := false
deriving Repr

/-- All nodes; the first one is the root.  The time is counted in milliseconds from the start of
    the machine. -/
structure Files where
  nodes : Array Node
  moment : Nat := 0

namespace Files

/-- When the machine starts, in nanoseconds since the start of the year 1970. -/
def start : Int := 1780272000 * 1000000000

/-- The time, in nanoseconds since the start of the year 1970. -/
def now (files : Files) : Int := start + files.moment * 1000000

/-- Nothing but a root. -/
def empty : Files :=
  { nodes := #[{ Node.folder 0 with owner := .system, changed := start, used := start }] }

/-- The node of a number. -/
def node? (files : Files) (i : Nat) : Option Node := files.nodes[i]?

/-- Whether a number is that of a directory. -/
def isDirectory (files : Files) (i : Nat) : Bool :=
  ((files.node? i).map Node.isDirectory).getD false

/-! ## Following paths -/

/-- Follows names from a directory on, through so many links, and the last name through links only
    where that is wanted. -/
def walk (files : Files) (through : Bool) (links place : Nat) :
    List String → Except FileFault Spot
  | [] => .ok ⟨place, "", some place, false⟩
  | name :: rest =>
      match files.node? place with
      | none => .error .notFound
      | some node =>
          match node.content with
          | .directory entries parent =>
              if name = "" then walk files through links place rest
              else if !node.allows .run then .error .permissionDenied
              else if name = "." then walk files through links place rest
              else if name = ".." then walk files through links parent rest
              else if longestName < name.length then .error .nameTooLong
              else
                let last := rest.all (· = "")
                match entries.lookup name with
                | none =>
                    if last then .ok ⟨place, name, none, !rest.isEmpty⟩ else .error .notFound
                | some i =>
                    match (files.node? i).bind Node.target?, links with
                    | some target, links =>
                        if rest.isEmpty && !through then .ok ⟨place, name, some i, false⟩
                        else
                          match links with
                          | 0 => .error .tooManyLinks
                          | links + 1 =>
                              if target = "" then .error .notFound
                              else
                                let start := if target.startsWith "/" then 0 else place
                                walk files through links start (target.splitOn "/" ++ rest)
                    | none, links =>
                        if last then .ok ⟨place, name, some i, !rest.isEmpty⟩
                        else if files.isDirectory i then walk files through links i rest
                        else .error .notADirectory
          | _ => .error .notADirectory
termination_by names => (links, names.length)

/-- The spot that a path leads to.  Nothing needs to be there. -/
def spot (files : Files) (start : Nat) (path : String) (through : Bool := true) :
    Except FileFault Spot :=
  if path.toList.any (fun c => c.toNat = 0) then .error .malformedName
  else if path = "" then .error .notFound
  else if longestPath < path.length then .error .nameTooLong
  else walk files through mostLinks (if path.startsWith "/" then 0 else start) (path.splitOn "/")

/-- The number of the node at a spot. -/
def nodeOf (files : Files) (spot : Spot) : Except FileFault Nat :=
  match spot.node with
  | some i => if spot.slashed && !files.isDirectory i then .error .notADirectory else .ok i
  | none => .error .notFound

/-- The number of the node that a path leads to. -/
def find (files : Files) (start : Nat) (path : String) (through : Bool := true) :
    Except FileFault Nat := do
  files.nodeOf (← files.spot start path through)

/-- The node that a path leads to. -/
def findNode (files : Files) (start : Nat) (path : String) (through : Bool := true) :
    Except FileFault Node := do
  match files.node? (← files.find start path through) with
  | some node => .ok node
  | none => .error .notFound

/-- The path of a directory from the root, in front of some names. -/
def pathAbove (files : Files) : Nat → Nat → List String → String
  | 0, _, names => "/" ++ "/".intercalate names
  | n + 1, i, names =>
      match (files.node? i).bind Node.parent? with
      | some parent =>
          if parent = i then "/" ++ "/".intercalate names
          else
            let above := ((files.node? parent).map Node.entries).getD []
            let name := ((above.find? fun entry => entry.2 = i).map (·.1)).getD ""
            files.pathAbove n parent (name :: names)
      | none => "/" ++ "/".intercalate names

/-- The path of a directory from the root. -/
def pathOf (files : Files) (i : Nat) : String := files.pathAbove files.nodes.size i []

/-- Whether a path leads to something that can be run. -/
def executable? (files : Files) (start : Nat) (path : String) : Bool :=
  ((files.findNode start path).toOption.map Node.isExecutable).getD false

/-- Whether the user may change the names in a directory. -/
def mayChange (files : Files) (place : Nat) : Bool :=
  (files.node? place).any fun node => node.allows .write && node.allows .run

/-- Why the name of a node may not be taken away from a directory, if so.  In directories that all
    can write to, only the names of one's own nodes can be taken away. -/
def unlinkFault? (files : Files) (place i : Nat) : Option FileFault :=
  if !files.mayChange place then some .permissionDenied
  else
    match files.node? place, files.node? i with
    | some directory, some node =>
        if directory.mode &&& 0o1000 != 0 && directory.owner = .system && node.owner = .system
        then some .notPermitted else none
    | _, _ => none

/-- How many names a node has.  A directory has one more in itself, and one in each directory in
    it. -/
def nameCount (files : Files) (i : Nat) : Nat :=
  match files.node? i with
  | some node =>
      if node.isDirectory then
        2 + (node.entries.filter fun entry => files.isDirectory entry.2).length
      else
        files.nodes.foldl (fun n other =>
          n + (other.entries.filter fun entry => entry.2 = i).length) 0
  | none => 0

/-! ## Changing the tree -/

/-- Adds a node that has no name yet: its number, and the nodes with it. -/
def add (files : Files) (node : Node) : Nat × Files :=
  let moment := files.now
  (files.nodes.size,
    { files with nodes := files.nodes.push { node with changed := moment, used := moment } })

/-- Changes a node. -/
def modify (files : Files) (i : Nat) (f : Node → Node) : Files :=
  { files with nodes := files.nodes.modify i f }

/-- Changes the names in a directory. -/
def changeEntries (files : Files) (place : Nat)
    (f : List (String × Nat) → List (String × Nat)) : Files :=
  let moment := files.now
  files.modify place fun node =>
    match node.content with
    | .directory entries parent =>
        { node with content := .directory (f entries) parent, changed := moment }
    | _ => node

/-- Takes a name away from a directory. -/
def unlink (files : Files) (place : Nat) (name : String) : Files :=
  files.changeEntries place fun entries => entries.filter fun entry => entry.1 ≠ name

/-- Gives a name in a directory to a node; the name is taken from the node that had it. -/
def link (files : Files) (place : Nat) (name : String) (i : Nat) : Files :=
  files.changeEntries place fun entries =>
    if (entries.lookup name).isSome then
      entries.map fun entry => if entry.1 = name then (name, i) else entry
    else entries ++ [(name, i)]

/-- Makes a node under a name in a directory: its number, and the files with it. -/
def make (files : Files) (place : Nat) (name : String) (node : Node) : Nat × Files :=
  let (i, files) := files.add node
  (i, files.link place name i)

/-- Makes an empty directory under a name. -/
def makeDirectory (files : Files) (place : Nat) (name : String) (mode : Nat := 0o755) :
    Nat × Files :=
  files.make place name (.folder place mode)

/-- The directory at the end of some names, where every directory that is not there is made. -/
def ensure (files : Files) : Nat → List String → Nat × Files
  | place, [] => (place, files)
  | place, name :: rest =>
      match ((files.node? place).map Node.entries).getD [] |>.lookup name with
      | some i => files.ensure i rest
      | none =>
          let (i, files) := files.makeDirectory place name
          files.ensure i rest

/-- Moves a node to a name in a directory. -/
def rename (files : Files) (source : Spot) (i : Nat) (place : Nat) (name : String) : Files :=
  let files := (files.unlink source.directory source.name).link place name i
  files.modify i fun node =>
    match node.content with
    | .directory entries _ => { node with content := .directory entries place }
    | _ => node

/-! ## Contents -/

/-- The content of a node that can be read as a whole. -/
def content (files : Files) (i : Nat) : Except FileFault ByteArray :=
  match files.node? i with
  | none => .error .notFound
  | some node =>
      if !node.allows .read then .error .permissionDenied
      else
        match node.content with
        | .data bytes => .ok bytes
        | .directory .. => .error .isADirectory
        | _ => .ok .empty

/-- The content of the file that a path leads to. -/
def read (files : Files) (start : Nat) (path : String) : Except FileFault ByteArray := do
  files.content (← files.find start path)

/-- Changes the content of a plain file. -/
def change (files : Files) (i : Nat) (f : ByteArray → ByteArray) : Files :=
  let moment := files.now
  files.modify i fun ⟨content, mode, owner, changed, used⟩ =>
    match content with
    | .data bytes => ⟨.data (f bytes), mode, owner, moment, used⟩
    | content => ⟨content, mode, owner, changed, used⟩

/-- A path without the slashes at its end. -/
def withoutSlashes (path : String) : String :=
  String.ofList (path.toList.reverse.dropWhile (· = '/')).reverse

/-- The spot of a path that is to be written to, as a file.  A path that ends in a slash can only
    mean a directory, which cannot be written to. -/
def spotForWriting (files : Files) (start : Nat) (path : String) : Except FileFault Spot := do
  let spot ← files.spot start path
  if spot.slashed then .error .isADirectory
  else
    match spot.node.bind files.node? with
    | some node =>
        if node.isDirectory then .error .isADirectory
        else if !node.allows .write then .error .permissionDenied
        else .ok spot
    | none => if files.mayChange spot.directory then .ok spot else .error .permissionDenied

/-- Replaces the whole content of a file, or makes the file with a mode. -/
def write (files : Files) (start : Nat) (path : String) (data : ByteArray)
    (mode : Nat := 0o644) : Except FileFault Files := do
  let spot ← files.spotForWriting start path
  match spot.node with
  | none => return (files.make spot.directory spot.name (.plain data mode)).2
  | some i =>
      match (files.node? i).map Node.content with
      | some (.device .full) => .error .noSpace
      | some (.device .terminal) => .error .noDevice
      | _ => return files.change i fun _ => data

end Files

end WasmBinary.Machine
