/-
  What tools do with paths.

  Paths are looked at with or without following the last link.  Some tools put things into a
  directory; where to is told by an option, or by the last operand.
-/
import WasmBinary.Machine.Script.Tool.Basic

namespace WasmBinary.Machine.Script.Tool

open Run

/-- The spot of a path. -/
def spotOf (path : String) (through : Bool := true) : Run (Except FileFault Spot) :=
  return (← files).spot (← shell).directory path through

/-- The number of the node at a path. -/
def nodeAt (path : String) (through : Bool := true) : Run (Except FileFault Nat) :=
  return (← files).find (← shell).directory path through

/-- The node at a path, with its number. -/
def lookAt (path : String) (through : Bool := true) : Run (Except FileFault (Nat × Node)) := do
  match ← nodeAt path through with
  | .error fault => return .error fault
  | .ok i => return ((← files).node? i).elim (.error .notFound) fun node => .ok (i, node)

/-- A path in a directory. -/
def inside (directory name : String) : String :=
  if directory.endsWith "/" then directory ++ name else directory ++ "/" ++ name

/-- What is in front of the last name of a path. -/
def directoryName (path : String) : String :=
  let bare := Files.withoutSlashes path
  if bare = "" then if path = "" then "." else "/"
  else if bare.contains '/' then
    let parts := (bare.splitOn "/").dropLast
    let front := Files.withoutSlashes ("/".intercalate parts)
    if front = "" then "/" else front
  else "."

/-- Whether a directory is, or is in, another one. -/
def isWithin (files : Files) (other : Nat) : Nat → Nat → Bool
  | 0, _ => false
  | n + 1, i =>
      i = other || ((files.node? i).bind Node.parent?).any fun parent =>
        i != parent && isWithin files other n parent

/-- The deepest that directories are looked at. -/
def deepest : Nat := 256

/-- A mode in octal digits. -/
def octal (mode : Nat) : String := String.ofList (Nat.toDigits 8 mode)

/-- A mode in four octal digits at least. -/
def octalMode (mode : Nat) : String := String.ofList ((Nat.toDigits 8 mode).leftpad 4 '0')

/-! ## Targets -/

/-- Where things are to be put: the sources, the target, and whether the target is a directory that
    they are put into. -/
structure Placement where
  sources : List String
  target : String
  into : Bool

/-- The placement that operands ask for, where one option may name the directory and another one
    may say that the target is none.  Or else, what is wrong. -/
def placementOf (operands : List String) (directory : Option String) (never : Bool) :
    Run (Except Misuse Placement) := do
  match directory, operands with
  | _, [] => return .error (.hinted "missing file operand")
  | some directory, sources =>
      if never then
        return .error (.plain
          "cannot combine --target-directory (-t) and --no-target-directory (-T)")
      match ← lookAt directory with
      | .error fault =>
          return .error (.plain ("target directory " ++ quoted directory ++ ": " ++ fault.words))
      | .ok (_, node) =>
          if node.isDirectory then return .ok ⟨sources, directory, true⟩
          else
            return .error (.plain ("target directory " ++ quoted directory ++ ": " ++
              FileFault.notADirectory.words))
  | none, [source] =>
      return .error (.hinted ("missing destination file operand after " ++ quoted source))
  | none, operands =>
      let target := operands.getLast?.getD ""
      let sources := operands.dropLast
      if never then
        match operands with
        | [_, _] => return .ok ⟨sources, target, false⟩
        | _ => return .error (.hinted ("extra operand " ++ quoted (operands.getD 2 "")))
      else
        match ← lookAt target with
        | .ok (_, node) =>
            if node.isDirectory then return .ok ⟨sources, target, true⟩
            else if sources.length = 1 then return .ok ⟨sources, target, false⟩
            else
              return .error (.plain ("target " ++ quoted target ++ ": " ++
                FileFault.notADirectory.words))
        | .error fault =>
            if sources.length = 1 then return .ok ⟨sources, target, false⟩
            else return .error (.plain ("target " ++ quoted target ++ ": " ++ fault.words))

/-- Does something with each source and the path that it is to have. -/
def eachPlaced (self : String) (placement : Except Misuse Placement)
    (act : String → String → Run Bool) : Run Unit := do
  match placement with
  | .error m => m.report self 1
  | .ok p =>
      forEach p.sources fun source =>
        act source (if p.into then inside p.target (baseName source) else p.target)

/-! ## Asking -/

/-- Asks a question and reads a line for an answer: whether it starts with a yes. -/
def agrees (question : String) : Run Bool := do
  tell question
  match ← readStream 0 (.lines 1) with
  | .ok data => return (ByteText.ofBytes data).toList.head?.any fun c => c = 'y' || c = 'Y'
  | .error _ => return false

/-- What kind of file a node is, in words. -/
def kindText (node : Node) : String :=
  match node.content with
  | .data bytes => if bytes.isEmpty then "regular empty file" else "regular file"
  | .tool _ => "regular file"
  | .directory .. => "directory"
  | .link _ => "symbolic link"
  | .device _ => "character special file"
  | .queue => "fifo"

/-! ## Making -/

/-- Makes a node under a path that nothing has yet: why that is impossible, if so. -/
def makeNode (path : String) (node : Nat → Node) (slashes : Bool := false) :
    Run (Option FileFault) := do
  match ← spotOf path false with
  | .error fault => return some fault
  | .ok spot =>
      if spot.node.isSome then return some .alreadyThere
      else if spot.slashed && !slashes then return some .notFound
      else if !(← files).mayChange spot.directory then return some .permissionDenied
      else
        modifyFiles fun files => (files.make spot.directory spot.name (node spot.directory)).2
        return none

/-- Takes the name at a spot away from a node: why that is impossible, if so. -/
def dropName (spot : Spot) (i : Nat) : Run (Option FileFault) := do
  match (← files).unlinkFault? spot.directory i with
  | some fault => return some fault
  | none =>
      modifyFiles fun files => files.unlink spot.directory spot.name
      return none

/-- Says that the whole system is left alone. -/
def sparesSystem (self path : String) : Run Unit := do
  let same := if path = "/" then "" else " (same as '/')"
  say self ("it is dangerous to operate recursively on " ++ quoted path ++ same)
  say self "use --no-preserve-root to override this failsafe"

end WasmBinary.Machine.Script.Tool
