/-
  Tools that copy and move files.

  1. **Copies** have the content of their sources, and a mode that is theirs without what is taken
     off new files.  A file that is there already keeps its own mode.  Trees are copied only where
     that is wanted.

  2. **Moves** give a node another name.

  3. **What is there** — whether something is replaced may hang on which is older, on an answer, or
     on options.  A backup is made by another name.
-/
import WasmBinary.Machine.Script.Tool.Making

namespace WasmBinary.Machine.Script.Tool

open Run

/-! ## Settings -/

/-- What is done where there is a file already. -/
inductive Replacing
  | always
  | never
  | ifOlder
  | ifAgreed
deriving DecidableEq

/-- How files are copied or moved. -/
structure CopySettings where
  recursive : Bool := false
  /-- Whether links are copied as links; if nothing is said, trees are copied so. -/
  keepsLinks : Option Bool := none
  /-- Whether links among the operands are followed although others are not. -/
  followsOperands : Bool := false
  forced : Bool := false
  replacing : Replacing := .always
  hardLinks : Bool := false
  symbolicLinks : Bool := false
  keepsMode : Bool := false
  keepsTimes : Bool := false
  contents : Bool := true
  parents : Bool := false
  removes : Bool := false
  stripsSlashes : Bool := false
  verbose : Bool := false
  backups : Bool := false
  suffix : String := "~"
  directory : Option String := none
  single : Bool := false
  warns : Bool := false

namespace CopySettings

/-- Whether links are copied as links. -/
def copiesLinks (s : CopySettings) (operand : Bool) : Bool :=
  match s.keepsLinks with
  | some keeps => keeps && !(operand && s.followsOperands)
  | none => s.recursive && !(operand && s.followsOperands)

/-- Keeps or drops what words say. -/
def preserving (s : CopySettings) (keeps : Bool) (words : String) : CopySettings :=
  (words.splitOn ",").foldl (fun s word =>
    match word with
    | "mode" => { s with keepsMode := keeps }
    | "timestamps" => { s with keepsTimes := keeps }
    | "all" => { s with keepsMode := keeps, keepsTimes := keeps }
    | _ => s) s

/-- The next option of `cp` or `mv`. -/
def step (s : CopySettings) (option : Given) : Except Misuse CopySettings :=
  match option.key with
  | "a" =>
      .ok { s with
        recursive := true, keepsLinks := some true, keepsMode := true, keepsTimes := true }
  | "b" => .ok { s with backups := true }
  | "d" => .ok { s with keepsLinks := some true }
  | "f" =>
      let replacing := if s.replacing = .ifAgreed then .always else s.replacing
      .ok { s with forced := true, replacing }
  | "H" => .ok { s with followsOperands := true, keepsLinks := some true }
  | "i" => .ok { s with replacing := .ifAgreed }
  | "l" => .ok { s with hardLinks := true }
  | "L" => .ok { s with keepsLinks := some false }
  | "n" => .ok { s with replacing := .never, warns := true }
  | "P" => .ok { s with keepsLinks := some true }
  | "p" => .ok { s with keepsMode := true, keepsTimes := true }
  | "preserve" => .ok (s.preserving true (if option.valued then option.value else "all"))
  | "no-preserve" => .ok (s.preserving false option.value)
  | "r" | "R" => .ok { s with recursive := true }
  | "s" => .ok { s with symbolicLinks := true }
  | "t" => .ok { s with directory := some option.value }
  | "T" => .ok { s with single := true }
  | "S" => .ok { s with backups := true, suffix := option.value }
  | "u" =>
      let word := if option.valued then option.value else "older"
      match choiceOf ["all", "none", "older"] word "--update" with
      | .ok "all" => .ok { s with replacing := .always }
      | .ok "none" => .ok { s with replacing := .never }
      | .ok _ => .ok { s with replacing := .ifOlder }
      | .error m => .error m
  | "v" => .ok { s with verbose := true }
  | "attributes-only" => .ok { s with contents := false }
  | "parents" => .ok { s with parents := true }
  | "remove-destination" => .ok { s with removes := true }
  | "strip-trailing-slashes" => .ok { s with stripsSlashes := true }
  | _ => .ok s

end CopySettings

/-! ## What is there already -/

/-- Whether something that is there is to be replaced, and if so, makes room for it: nothing where
    the new one is not to be put there, with whether that is a failure. -/
def clears (self : String) (s : CopySettings) (target : String) (changed : Int) (spot : Spot)
    (j : Nat) (moves : Bool) : Run (Option Bool) := do
  let there ← nodeAt target
  let older := there.toOption.bind (← files).node? |>.any fun node => node.changed < changed
  match s.replacing with
  | .never =>
      if moves && s.warns then
        say self ("not replacing " ++ quoted target)
        return some false
      else return some true
  | .ifOlder => unless older do return some true
  | .ifAgreed =>
      unless ← agrees (self ++ ": overwrite " ++ quoted target ++ "? ") do return some false
  | .always => pure ()
  if s.backups then
    modifyFiles fun files => files.rename spot j spot.directory (spot.name ++ s.suffix)
  else if s.removes && !moves then
    if let some fault ← dropName spot j then
      say self ("cannot remove " ++ quoted target ++ ": " ++ fault.words)
      return some false
    if s.verbose then emit ("removed " ++ quoted target ++ "\n")
  return none

/-! ## Copying -/

/-- Gives a copy the mode and the times of its source, as far as they are kept. -/
def keepFacts (s : CopySettings) (i : Nat) (node : Node) : Run Unit :=
  modifyFiles fun files => files.modify i fun copy =>
    { copy with
      mode := if s.keepsMode then node.mode else copy.mode
      changed := if s.keepsTimes then node.changed else copy.changed
      used := if s.keepsTimes then node.used else copy.used }

/-- The content of a source, as a node with a mode. -/
def contentOf (node : Node) (path : String) (s : CopySettings) :
    Run (Except FileFault Node) := do
  let w := (← get).world
  let mode := w.modeOf (node.mode &&& 0o777)
  match node.content with
  | .tool name => return .ok { content := .tool name, mode }
  | _ =>
      if !s.contents then return .ok (.plain .empty mode)
      else return (← readPath path .whole).map fun data => .plain data mode

/-- Copies the content of a file to a path. -/
def copyContent (self : String) (s : CopySettings) (node : Node) (source target : String) :
    Run Bool := do
  match ← contentOf node source s with
  | .error fault =>
      let what := if fault = .isADirectory then "error reading " else "cannot open "
      let ending := if fault = .isADirectory then "" else " for reading"
      say self (what ++ quoted source ++ ending ++ ": " ++ fault.words)
      return false
  | .ok copy =>
      let cannot (fault : FileFault) : Run Bool := do
        say self ("cannot create regular file " ++ quoted target ++ ": " ++ fault.words)
        return false
      match ← spotOf target with
      | .error fault => cannot fault
      | .ok spot =>
          match spot.node with
          | none =>
              if spot.slashed then cannot .notADirectory
              else if (← nodeAt target false).isOk then
                say self ("not writing through dangling symlink " ++ quoted target)
                return false
              else if !(← files).mayChange spot.directory then cannot .permissionDenied
              else
                let i := (← files).nodes.size
                modifyFiles fun files => (files.make spot.directory spot.name copy).2
                keepFacts s i node
                return true
          | some j =>
              let some there := (← files).node? j | return false
              if spot.slashed then cannot .notADirectory
              else if !there.allows .write then
                if s.forced && there.owner = .user then
                  match ← dropName spot j with
                  | some fault =>
                      say self ("cannot remove " ++ quoted target ++ ": " ++ fault.words)
                      return false
                  | none =>
                      let i := (← files).nodes.size
                      modifyFiles fun files => (files.make spot.directory spot.name copy).2
                      keepFacts s i node
                      return true
                else cannot .permissionDenied
              else
                match there.content, copy.content with
                | .device .full, .data bytes =>
                    if bytes.isEmpty then return true
                    say self ("error writing " ++ quoted target ++ ": " ++ FileFault.noSpace.words)
                    return false
                | .device _, _ => return true
                | .data _, .data bytes =>
                    if s.contents then modifyFiles fun files => files.change j fun _ => bytes
                    keepFacts s j node
                    return true
                | _, content =>
                    modifyFiles fun files => files.modify j fun old => { old with content }
                    return true

/-- Copies a file to a path, as a link to it if that is wanted. -/
def copyFile (self : String) (s : CopySettings) (i : Nat) (node : Node) (source target : String) :
    Run Bool := do
  if s.hardLinks || s.symbolicLinks then
    if s.symbolicLinks && !source.startsWith "/" && target.contains '/' &&
        directoryName target ≠ "." then
      say self (shown target ++ ": can make relative symbolic links only in current directory")
      return false
    match ← makeNode target fun _ => .linkTo source with
    | some fault =>
        say self ("cannot create " ++ (if s.hardLinks then "hard link " else "symbolic link ")
          ++ quoted target ++ " to " ++ quoted source ++ ": " ++ fault.words)
        return false
    | none =>
        if s.hardLinks then
          if let .ok spot ← spotOf target false then
            modifyFiles fun files => files.link spot.directory spot.name i
        return true
  else
    match node.content with
    | .link path =>
        match ← makeNode target fun _ => .linkTo path with
        | some fault =>
            say self ("cannot create symbolic link " ++ quoted target ++ ": " ++ fault.words)
            return false
        | none => return true
    | .queue =>
        if s.recursive then
          match ← makeNode target fun _ => { node with owner := .user } with
          | some fault =>
              say self ("cannot create fifo " ++ quoted target ++ ": " ++ fault.words)
              return false
          | none => return true
        else waitForEver
    | _ => copyContent self s node source target

/-- Copies a file or a tree. -/
def copyTree (self : String) (s : CopySettings) :
    Nat → (operand : Bool) → String → String → Run Bool
  | 0, _, _, _ => return false
  | n + 1, operand, source, target => do
      let links := s.copiesLinks operand
      match ← lookAt source (!links) with
      | .error fault =>
          say self ("cannot stat " ++ quoted source ++ ": " ++ fault.words)
          return false
      | .ok (i, node) =>
          if node.isDirectory && !s.recursive then
            say self ("-r not specified; omitting directory " ++ quoted source)
            return false
          let existing ← lookAt target (!(links && node.isLink))
          if let .ok (j, there) := existing then
            if i = j && !(s.hardLinks && !node.isDirectory) then
              say self (quoted source ++ " and " ++ quoted target ++ " are the same file")
              return false
            if i = j then return true
            if there.isDirectory && !node.isDirectory then
              say self ("cannot overwrite directory " ++ quoted target ++ " with non-directory")
              return false
            if !there.isDirectory && node.isDirectory then
              say self ("cannot overwrite non-directory " ++ quoted target ++ " with directory "
                ++ quoted source)
              return false
            if !node.isDirectory then
              if let .ok spot ← spotOf target false then
                if let some k := spot.node then
                  if let some result ← clears self s target node.changed spot k false then
                    return result
                  if !s.backups && !s.removes && (node.isLink || s.hardLinks || s.symbolicLinks) &&
                      (s.forced || node.isLink) then
                    let _ ← dropName spot k
          if node.isDirectory then copyDirectory i node existing.isOk source target n
          else
            let good ← copyFile self s i node source target
            if good && s.verbose then emit (quoted source ++ " -> " ++ quoted target ++ "\n")
            return good
where
  /-- Copies what is in a directory. -/
  copyDirectory (i : Nat) (node : Node) (existing : Bool) (source target : String) (n : Nat) :
      Run Bool := do
    let cannot (fault : FileFault) : Run Bool := do
      say self ("cannot create directory " ++ quoted target ++ ": " ++ fault.words)
      return false
    match ← spotOf (Files.withoutSlashes target) with
    | .error fault => cannot fault
    | .ok spot =>
        if some i = spot.node || isWithin (← files) i deepest spot.directory then
          say self ("cannot copy a directory, " ++ quoted source ++ ", into itself, "
            ++ quoted target)
          return false
        let mode := (← get).world.modeOf (node.mode &&& 0o777)
        let made := (← files).nodes.size
        if !existing then
          if let some fault ← makeNode (Files.withoutSlashes target)
              fun place => .folder place (mode ||| 0o700) then
            return ← cannot fault
          if s.verbose then emit (quoted source ++ " -> " ++ quoted target ++ "\n")
        if !node.allows .read || !node.allows .run then
          say self ("cannot access " ++ quoted source ++ ": " ++ FileFault.permissionDenied.words)
          return false
        let mut good := true
        for name in node.names do
          let fine ← copyTree self s n false (inside source name) (inside target name)
          good := good && fine
        if !existing then
          modifyFiles fun files => files.modify made fun copy => { copy with mode }
          keepFacts s made node
        return good

/-- The options of `cp`. -/
def copyChoices : String :=
  "a,archive --attributes-only --backup=? --copy-contents --debug L,dereference f,force " ++
    "i,interactive l,link n,no-clobber P,no-dereference --no-preserve= " ++
    "T,no-target-directory x,one-file-system --parents,path --preserve=? R,recursive " ++
    "--remove-destination --sparse= --reflink=? --strip-trailing-slashes S,suffix= " ++
    "s,symbolic-link t,target-directory= --update=? v,verbose --context=? b d H p r u Z"

/-- Options whose long names stand for letters. -/
def withLetters (choices : String) (letters : List (String × String)) : List Choice :=
  (choicesOf choices).map fun choice =>
    match letters.lookup choice.key with
    | some letter => { choice with key := letter }
    | none => choice

/-- Makes the directories that lead to the copy of an operand that keeps its whole path. -/
def makeWay (self : String) (s : CopySettings) (target path : String) : Run Bool := do
  let folders := (pathsThrough (directoryName path)).filter (· ≠ ".")
  for folder in folders do
    let way := inside target folder
    unless (← nodeAt way).isOk do
      let w := (← get).world
      let mode := match ← lookAt folder with
        | .ok (_, node) => w.modeOf (node.mode &&& 0o777)
        | .error _ => 0o755
      if let some fault ← makeNode way fun place => .folder place (mode ||| 0o700) then
        say self ("cannot make directory " ++ quoted way ++ ": " ++ fault.words)
        return false
      if s.verbose then emit (folder ++ " -> " ++ way ++ "\n")
  return true

/-- Copies files and trees. -/
def copy : Tool := fun self arguments => do
  let choices := withLetters copyChoices [("backup", "b"), ("update", "u")]
  let u := usageOf (withUsual choices) false (arguments.length + 1) arguments
  settled u ({} : CopySettings) CopySettings.step self (fun m => m.report self 1) fun s words => do
    if s.warns then
      say self ("warning: behavior of -n is non-portable and may change in future; "
        ++ "use --update=none instead")
    if s.hardLinks && s.symbolicLinks then
      misuse self "cannot make both hard and symbolic links"
    else if s.backups && s.replacing = .never then
      misuse self "options --backup and --no-clobber are mutually exclusive"
    else
      let operands := if s.stripsSlashes then words.map fun path =>
          let bare := Files.withoutSlashes path
          if bare = "" then path else bare
        else words
      let placement ← placementOf operands s.directory s.single
      if s.parents then
        match placement with
        | .error m => m.report self 1
        | .ok p =>
            if !p.into then misuse self "with --parents, the destination must be a directory"
            else
              forEach p.sources fun source => do
                let bare := Files.withoutSlashes source
                if ← makeWay self s p.target bare then
                  copyTree self s deepest true source (inside p.target bare)
                else return false
      else eachPlaced self placement (copyTree self s deepest true)

/-! ## Moving -/

/-- Moves a file or a tree. -/
def moveOne (self : String) (s : CopySettings) (source target : String) : Run Bool := do
  let cannot (fault : FileFault) : Run Bool := do
    say self ("cannot move " ++ quoted source ++ " to " ++ quoted target ++ ": " ++ fault.words)
    return false
  let unknown (fault : FileFault) : Run Bool := do
    say self ("cannot stat " ++ quoted source ++ ": " ++ fault.words)
    return false
  match ← spotOf source false with
  | .error fault => unknown fault
  | .ok origin =>
      match (← files).nodeOf origin with
      | .error fault => unknown fault
      | .ok i =>
          let some node := (← files).node? i | return false
          let tree := node.isDirectory
          match ← spotOf (if tree then Files.withoutSlashes target else target) false with
          | .error fault => cannot fault
          | .ok spot =>
              if spot.slashed && !tree && spot.node.isNone then cannot .notADirectory
              else if tree && isWithin (← files) i deepest spot.directory then
                say self ("cannot move " ++ quoted source ++ " to a subdirectory of itself, "
                  ++ quoted target)
                return false
              else if [".", ".."].contains (baseName source) && tree then
                cannot (.other "Device or resource busy")
              else
                match spot.node with
                | none => place origin i spot
                | some j =>
                    let some there := (← files).node? j | return false
                    if i = j then
                      say self (quoted source ++ " and " ++ quoted target ++ " are the same file")
                      return false
                    else if spot.slashed && !there.isDirectory then
                      cannot .notADirectory
                    else if there.isDirectory && !tree then
                      if s.replacing = .never then
                        say self ("not replacing " ++ quoted target)
                        return false
                      say self ("cannot overwrite directory " ++ quoted target
                        ++ " with non-directory " ++ quoted source)
                      return false
                    else if tree && !there.isDirectory then
                      say self ("cannot overwrite non-directory " ++ quoted target
                        ++ " with directory " ++ quoted source)
                      return false
                    else
                      match ← clears self s target node.changed spot j true with
                      | some result => return result
                      | none =>
                          if there.isDirectory && !there.names.isEmpty && !s.backups then
                            cannot .notEmpty
                          else place origin i spot
where
  /-- Gives a node its new name. -/
  place (origin : Spot) (i : Nat) (spot : Spot) : Run Bool := do
    let all ← files
    let fault := match all.unlinkFault? origin.directory i with
      | some fault => some fault
      | none => if all.mayChange spot.directory then none else some FileFault.permissionDenied
    match fault with
    | some fault =>
        say self ("cannot move " ++ quoted source ++ " to " ++ quoted target ++ ": " ++ fault.words)
        return false
    | none =>
        modifyFiles fun files => files.rename origin i spot.directory spot.name
        if s.verbose then emit ("renamed " ++ quoted source ++ " -> " ++ quoted target ++ "\n")
        return true

/-- Moves files and trees. -/
def move : Tool := fun self arguments => do
  let choices := withLetters
    ("--backup=? --context --debug f,force i,interactive n,no-clobber --no-copy " ++
      "T,no-target-directory --strip-trailing-slashes S,suffix= t,target-directory= " ++
      "--update=? v,verbose b u Z")
    [("backup", "b"), ("update", "u")]
  let u := usageOf (withUsual choices) false (arguments.length + 1) arguments
  settled u ({} : CopySettings) CopySettings.step self (fun m => m.report self 1) fun s words => do
    if s.backups && s.replacing = .never then
      misuse self "cannot combine --backup with --exchange, -n, or --update=none-fail"
    else
      let operands := if s.stripsSlashes then words.map fun path =>
          let bare := Files.withoutSlashes path
          if bare = "" then path else bare
        else words
      eachPlaced self (← placementOf operands s.directory s.single) (moveOne self s)

/-! ## Installing -/

/-- How files are installed. -/
structure InstallSettings where
  folders : Bool := false
  makesWay : Bool := false
  mode : Option String := none
  verbose : Bool := false
  keepsTimes : Bool := false
  directory : Option String := none
  single : Bool := false

/-- The next option of `install`. -/
def InstallSettings.step (s : InstallSettings) (option : Given) : Except Misuse InstallSettings :=
  match option.key with
  | "d" => .ok { s with folders := true }
  | "D" => .ok { s with makesWay := true }
  | "m" => .ok { s with mode := some option.value }
  | "v" => .ok { s with verbose := true }
  | "p" => .ok { s with keepsTimes := true }
  | "t" => .ok { s with directory := some option.value }
  | "T" => .ok { s with single := true }
  | _ => .ok s

/-- Copies a file to where it is used, with a mode. -/
def installOne (self : String) (s : InstallSettings) (mode : Nat) (source target : String) :
    Run Bool := do
  match ← lookAt source with
  | .error fault =>
      say self ("cannot stat " ++ quoted source ++ ": " ++ fault.words)
      return false
  | .ok (i, node) =>
      if node.isDirectory then
        say self ("omitting directory " ++ quoted source)
        return false
      if let .ok (j, there) ← lookAt target then
        if i = j then
          say self (quoted source ++ " and " ++ quoted target ++ " are the same file")
          return false
        if there.isDirectory then
          say self ("cannot overwrite directory " ++ quoted target ++ " with non-directory")
          return false
        if let .ok spot ← spotOf target false then
          if let some k := spot.node then
            let _ ← dropName spot k
            if s.verbose then emit ("removed " ++ quoted target ++ "\n")
      let settings : CopySettings := { keepsTimes := s.keepsTimes }
      if ← copyContent self settings node source target then
        if let .ok k ← nodeAt target then
          modifyFiles fun files => files.modify k fun node => { node with mode }
        if s.verbose then emit (quoted source ++ " -> " ++ quoted target ++ "\n")
        return true
      else return false

/-- Copies files to where they are used, or makes directories. -/
def install : Tool := fun self arguments =>
  withSettings
    ("B,backup=? C,compare --context=? --debug d,directory g,group= m,mode= " ++
      "T,no-target-directory o,owner= p,preserve-timestamps --preserve-context s,strip " ++
      "--strip-program= S,suffix= t,target-directory= v,verbose b c D Z")
    {} InstallSettings.step self arguments fun s operands => do
      match modeAfter 0 (s.mode.getD "755") 0 with
      | none => fail self ("invalid mode " ++ cited (s.mode.getD ""))
      | some mode =>
          if s.folders then
            if operands.isEmpty then misuse self "missing file operand"
            else
              forEach operands fun path => do
                let settings : FolderSettings := { parents := true }
                let missing ← (pathsThrough path).filterM fun way => return !(← nodeAt way).isOk
                let good ← makeFolders self settings mode (pathsThrough path)
                if good then
                  if s.verbose then
                    for way in missing do
                      emit (self ++ ": creating directory " ++ quoted way ++ "\n")
                  if let .ok k ← nodeAt path then
                    modifyFiles fun files => files.modify k fun node => { node with mode }
                return good
          else
            if s.makesWay then
              let way := s.directory.getD (directoryName (operands.getLast?.getD ""))
              if 1 < operands.length || s.directory.isSome then
                let missing ← (pathsThrough way).filterM fun part => return !(← nodeAt part).isOk
                let _ ← makeFolders self {} 0o755 (pathsThrough way)
                if s.verbose then
                  for part in missing do
                    emit (self ++ ": creating directory " ++ quoted part ++ "\n")
            eachPlaced self (← placementOf operands s.directory s.single)
              (installOne self s mode)

end WasmBinary.Machine.Script.Tool
