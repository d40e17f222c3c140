/-
  Tools that take files and directories away.

  What a directory holds goes before the directory itself.  A tree of which something cannot be
  taken away stays as far as that needs.
-/
import WasmBinary.Machine.Script.Tool.Paths

namespace WasmBinary.Machine.Script.Tool

open Run

/-- When a removal is asked about. -/
inductive Asking
  | never
  | once
  | always
deriving DecidableEq

/-- How files are to be taken away. -/
structure RemoveSettings where
  forced : Bool := false
  asking : Asking := .never
  recursive : Bool := false
  empties : Bool := false
  verbose : Bool := false
  /-- Whether the root is kept. -/
  cautious : Bool := true

/-- The next option of `rm`. -/
def RemoveSettings.step (s : RemoveSettings) (option : Given) : Except Misuse RemoveSettings :=
  match option.key with
  | "f" => .ok { s with forced := true, asking := .never }
  | "i" => .ok { s with forced := false, asking := .always }
  | "I" => .ok { s with forced := false, asking := .once }
  | "r" => .ok { s with recursive := true }
  | "d" => .ok { s with empties := true }
  | "v" => .ok { s with verbose := true }
  | "interactive" =>
      let word := if option.valued then option.value else "always"
      match choiceOf ["never|no|none", "once", "always|yes"] word "--interactive" with
      | .ok "never" => .ok { s with asking := .never }
      | .ok "once" => .ok { s with forced := false, asking := .once }
      | .ok _ => .ok { s with forced := false, asking := .always }
      | .error m => .error m
  | "no-preserve-root" => .ok { s with cautious := false }
  | _ => .ok s

/-- Says why something cannot be taken away. -/
def cannotRemove (self path : String) (fault : FileFault) : Run Bool := do
  say self ("cannot remove " ++ quoted path ++ ": " ++ fault.words)
  return false

/-- Takes a file away, or a directory that is empty by now. -/
def removeNode (self : String) (s : RemoveSettings) (path : String) (spot : Spot) (i : Nat)
    (node : Node) : Run Bool := do
  let kind := if node.isDirectory then "directory" else kindText node
  if s.asking = .always then
    let secured := if node.isLink || node.allows .write then "" else "write-protected "
    unless ← agrees (self ++ ": remove " ++ secured ++ kind ++ " " ++ quoted path ++ "? ") do
      return true
  match ← dropName spot i with
  | some fault => cannotRemove self path fault
  | none =>
      if s.verbose then
        emit ("removed " ++ (if node.isDirectory then "directory " else "") ++ quoted path ++ "\n")
      return true

/-- Takes a file or a tree away. -/
def removeTree (self : String) (s : RemoveSettings) : Nat → (top : Bool) → String → Run Bool
  | 0, _, _ => return false
  | n + 1, top, path => do
      match ← spotOf path false with
      | .error fault =>
          let missing := [FileFault.notFound, .notADirectory, .malformedName].contains fault
          if s.forced && missing then
            return true
          else cannotRemove self path fault
      | .ok spot =>
          match (← files).nodeOf spot with
          | .error fault =>
              if s.forced && (fault = .notFound || fault = .notADirectory) then return true
              else cannotRemove self path fault
          | .ok i =>
              let some node := (← files).node? i | return false
              if !node.isDirectory then removeNode self s path spot i node
              else if !s.recursive && !(s.empties && top) then cannotRemove self path .isADirectory
              else if !s.recursive then
                if node.names.isEmpty then removeNode self s path spot i node
                else cannotRemove self path .notEmpty
              else if s.cautious && i = 0 then
                say self "it is dangerous to operate recursively on '/'"
                say self "use --no-preserve-root to override this failsafe"
                return false
              else if !node.allows .read || !node.allows .run then
                if node.names.isEmpty && node.allows .run then removeNode self s path spot i node
                else cannotRemove self path .permissionDenied
              else
                if s.asking = .always && !node.names.isEmpty then
                  unless ← agrees (self ++ ": descend into directory " ++ quoted path ++ "? ") do
                    return true
                let mut good := true
                for name in node.names do
                  let fine ← removeTree self s n false (inside path name)
                  good := good && fine
                let some node := (← files).node? i | return false
                if good && node.names.isEmpty then removeNode self s path spot i node
                else return good

/-- Takes an operand away. -/
def removeOperand (self : String) (s : RemoveSettings) (path : String) : Run Bool := do
  if s.recursive && [".", ".."].contains (baseName path) then
    say self ("refusing to remove '.' or '..' directory: skipping " ++ quoted path)
    return false
  else removeTree self s deepest true path

/-- Takes files and trees away. -/
def remove : Tool := fun self arguments => do
  let choices := "f,force --interactive=? --one-file-system --no-preserve-root " ++
    "--preserve-root=? ---presume-input-tty r,recursive d,dir v,verbose R i I"
  let canonical := (choicesOf choices).map fun choice =>
    if choice.letter = some 'R' then { choice with key := "r" } else choice
  let refuse (m : Misuse) : Run Unit := do
    m.lines.head?.forM (say self)
    for line in m.lines.drop 1 do tell (line ++ "\n")
    if let some word ← arguments.findM? fun word =>
        return word.startsWith "-" && (← nodeAt word false).isOk then
      tell ("Try '" ++ self ++ " ./" ++ word ++ "' to remove the file " ++ quoted word ++ ".\n")
    hint self
    finish 1
  let u := usageOf (withUsual canonical) false (arguments.length + 1) arguments
  settled u ({} : RemoveSettings) RemoveSettings.step self refuse fun s operands => do
    if operands.isEmpty then
      if s.forced then finish 0 else misuse self "missing operand"
    else
      let many := s.asking = .once && (s.recursive || 3 < operands.length)
      let count := toString operands.length ++ " argument" ++
        (if operands.length = 1 then "" else "s") ++
        (if s.recursive then " recursively" else "")
      let sure ← if many then agrees (self ++ ": remove " ++ count ++ "? ") else pure true
      if sure then forEach operands (removeOperand self s) else finish 0

/-- Takes empty directories away, those in front as long as that works. -/
def removeDirectories (self : String) (u : Usage) : (first : Bool) → List String → Run Bool
  | _, [] => return true
  | first, path :: rest => do
      let cannot (fault : FileFault) : Run Bool := do
        if fault = .notEmpty && u.hasName "ignore-fail-on-non-empty" then return true
        say self ("failed to remove " ++ (if first then "" else "directory ") ++ quoted path ++ ": "
          ++ fault.words)
        return false
      if u.has 'v' then emit (self ++ ": removing directory, " ++ quoted path ++ "\n")
      match ← spotOf path false with
      | .error fault => cannot fault
      | .ok spot =>
          match (← files).nodeOf spot with
          | .error fault => cannot fault
          | .ok i =>
              let some node := (← files).node? i | return false
              if !node.isDirectory then cannot .notADirectory
              else if baseName path = "." then cannot (.other "Invalid argument")
              else if !node.names.isEmpty then cannot .notEmpty
              else
                match ← dropName spot i with
                | some fault => cannot fault
                | none => removeDirectories self u false rest

/-- The paths that lead to a path, from itself on. -/
def pathsUp (path : String) : List String :=
  let names := (Files.withoutSlashes path).splitOn "/"
  let shorter := (List.range names.length).map fun i =>
    "/".intercalate (names.take (names.length - i))
  path :: (shorter.drop 1).filter (· ≠ "")

/-- Takes empty directories away. -/
def removeDirectory : Tool := fun self arguments =>
  withUsage "--ignore-fail-on-non-empty p,path p,parents v,verbose" self arguments fun u => do
    if u.operands.isEmpty then misuse self "missing operand"
    else
      forEach u.operands fun path =>
        removeDirectories self u true (if u.has 'p' then pathsUp path else [path])

/-- Takes a single name away. -/
def unlinkName : Tool := fun self arguments =>
  withUsage "" self arguments fun u => do
    match u.operands with
    | [] => misuse self "missing operand"
    | [path] =>
        let cannot (fault : FileFault) : Run Unit :=
          fail self ("cannot unlink " ++ quoted path ++ ": " ++ fault.words)
        match ← spotOf path false with
        | .error fault => cannot fault
        | .ok spot =>
            match (← files).nodeOf spot with
            | .error fault => cannot fault
            | .ok i =>
                if (← files).isDirectory i then cannot .isADirectory
                else
                  match ← dropName spot i with
                  | some fault => cannot fault
                  | none => finish 0
    | _ :: extra :: _ => misuse self ("extra operand " ++ cited extra)

end WasmBinary.Machine.Script.Tool
