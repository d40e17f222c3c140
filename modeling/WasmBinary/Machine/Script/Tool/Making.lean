/-
  Tools that make directories, links and other nodes.
-/
import WasmBinary.Machine.Script.Tool.Modes

namespace WasmBinary.Machine.Script.Tool

open Run

/-! ## Directories -/

/-- How directories are to be made. -/
structure FolderSettings where
  parents : Bool := false
  verbose : Bool := false
  mode : Option String := none

/-- The next option of `mkdir`. -/
def FolderSettings.step (s : FolderSettings) (option : Given) : Except Misuse FolderSettings :=
  match option.key with
  | "p" => .ok { s with parents := true }
  | "v" => .ok { s with verbose := true }
  | "m" => .ok { s with mode := some option.value }
  | _ => .ok s

/-- Makes a directory. -/
def makeFolder (self : String) (s : FolderSettings) (mode : Nat) (path : String) : Run Bool := do
  match ← makeNode path (fun place => .folder place mode) true with
  | none =>
      if s.verbose then emit (self ++ ": created directory " ++ quoted path ++ "\n")
      return true
  | some fault =>
      say self ("cannot create directory " ++ quoted path ++ ": " ++ fault.words)
      return false

/-- The paths that a path leads through, up to itself. -/
def pathsThrough (path : String) : List String :=
  let names := (Files.withoutSlashes path).splitOn "/"
  ((List.range names.length).map fun i => "/".intercalate (names.take (i + 1))).filter (· ≠ "")

/-- Makes the directories that a path leads through, the last one with a mode of its own. -/
def makeFolders (self : String) (s : FolderSettings) (mode : Nat) : List String → Run Bool
  | [] => return true
  | path :: rest => do
      match ← lookAt path with
      | .ok (_, node) =>
          if node.isDirectory then makeFolders self s mode rest
          else
            let fault := if rest.isEmpty then FileFault.alreadyThere else .notADirectory
            say self ("cannot create directory " ++ quoted path ++ ": " ++ fault.words)
            return false
      | .error _ =>
          let w := (← get).world
          let between := w.modeOf 0o777 ||| 0o300
          if ← makeFolder self s (if rest.isEmpty then mode else between) path then
            makeFolders self s mode rest
          else return false

/-- Makes directories. -/
def makeDirectory : Tool := fun self arguments =>
  withSettings "--context=? m,mode= p,parents v,verbose Z" {} FolderSettings.step self arguments
    fun s operands => do
      if operands.isEmpty then misuse self "missing operand"
      else
        let w := (← get).world
        match s.mode with
        | none => makeAll self s (w.modeOf 0o777) operands
        | some text =>
            match modeAfter w.mask text 0o777 true with
            | none => fail self ("invalid mode " ++ cited text)
            | some mode => makeAll self s mode operands
where
  /-- Makes directories with a mode. -/
  makeAll (self : String) (s : FolderSettings) (mode : Nat) (operands : List String) : Run Unit :=
    forEach operands fun path =>
      if s.parents && path ≠ "" then makeFolders self s mode (pathsThrough path)
      else makeFolder self s mode path

/-- The mode of a pipe that options ask for, or what is wrong with it. -/
def queueMode (u : Usage) : Run (Except String Nat) := do
  let w := (← get).world
  match u.value? 'm' with
  | none => return .ok (w.modeOf 0o666)
  | some text =>
      match modeAfter w.mask text 0o666 with
      | none => return .error "invalid mode"
      | some mode =>
          if 0o777 < mode then return .error "mode must specify only file permission bits"
          else return .ok mode

/-- Makes pipes that have names. -/
def makeQueues : Tool := fun self arguments =>
  withUsage "m,mode= Z --context=?" self arguments fun u => do
    if u.operands.isEmpty then misuse self "missing operand"
    else
      match ← queueMode u with
      | .error text => fail self text
      | .ok mode =>
          forEach u.operands fun path => do
            match ← makeNode path fun _ => { content := .queue, mode } with
            | none => return true
            | some fault =>
                say self ("cannot create fifo " ++ quoted path ++ ": " ++ fault.words)
                return false

/-! ## Links -/

/-- How links are to be made. -/
structure LinkSettings where
  symbolic : Bool := false
  forced : Bool := false
  asks : Bool := false
  verbose : Bool := false
  /-- Whether a target that is a link to a directory is replaced. -/
  keepsLinks : Bool := false
  /-- Whether the last operand is no directory to put links into. -/
  single : Bool := false
  relative : Bool := false
  /-- Whether a link to a link is one to what that leads to. -/
  follows : Bool := false
  backups : Bool := false
  suffix : String := "~"
  directory : Option String := none

/-- The next option of `ln`. -/
def LinkSettings.step (s : LinkSettings) (option : Given) : Except Misuse LinkSettings :=
  match option.key with
  | "s" => .ok { s with symbolic := true }
  | "f" => .ok { s with forced := true, asks := false }
  | "i" => .ok { s with forced := false, asks := true }
  | "v" => .ok { s with verbose := true }
  | "n" => .ok { s with keepsLinks := true }
  | "T" => .ok { s with single := true }
  | "r" => .ok { s with relative := true }
  | "L" => .ok { s with follows := true }
  | "P" => .ok { s with follows := false }
  | "b" => .ok { s with backups := true }
  | "S" => .ok { s with backups := true, suffix := option.value }
  | "t" => .ok { s with directory := some option.value }
  | _ => .ok s

/-- The path that leads from a directory to another path, where both start at the root. -/
def relativePath (start goal : String) : String :=
  let names (path : String) : List String := (path.splitOn "/").filter (· ≠ "")
  let a := names start
  let b := names goal
  let common := ((a.zip b).takeWhile fun (x, y) => x = y).length
  let path := List.replicate (a.length - common) ".." ++ b.drop common
  if path.isEmpty then "." else "/".intercalate path

/-- Gives a file another name, or makes a link to a path. -/
def linkOne (self : String) (s : LinkSettings) (source target : String) : Run Bool := do
  let kind := if s.symbolic then "symbolic link " else "hard link "
  let cannot (fault : FileFault) : Run Bool := do
    let arrow := if s.symbolic && fault = .alreadyThere then ""
      else if fault = .alreadyThere then "" else
        if s.symbolic then "" else " => " ++ quoted source
    say self ("failed to create " ++ kind ++ quoted target ++ arrow ++ ": " ++ fault.words)
    return false
  match s.symbolic, ← lookAt source s.follows with
  | false, .error fault =>
      say self ("failed to access " ++ quoted source ++ ": " ++ fault.words)
      return false
  | symbolic, origin =>
      let isFolder := origin.toOption.any fun found => found.2.isDirectory
      if !symbolic && isFolder then
        say self (shown source ++ ": hard link not allowed for directory")
        return false
      match ← spotOf target false with
      | .error fault => cannot fault
      | .ok spot =>
          if let some j := spot.node then
            if (← files).isDirectory j then
              if s.forced || s.asks then
                say self (shown target ++ ": cannot overwrite directory")
                return false
              else return ← cannot .alreadyThere
            let same := origin.toOption.any fun found => found.1 = j
            if (s.forced || s.asks || s.backups) && same && !symbolic then
              say self (quoted source ++ " and " ++ quoted target ++ " are the same file")
              return false
            if s.asks then
              unless ← agrees (self ++ ": replace " ++ quoted target ++ "? ") do return false
            if s.backups then
              modifyFiles fun files =>
                files.rename spot j spot.directory (spot.name ++ s.suffix)
            else if !s.forced && !s.asks then return ← cannot .alreadyThere
          if spot.slashed then return ← cannot .notFound
          if !(← files).mayChange spot.directory then return ← cannot .permissionDenied
          let text ← if s.relative then do
              let all ← files
              let goal := match ← spotOf source with
                | .ok spot => match spot.node with
                    | some i => if all.isDirectory i then all.pathOf i
                        else inside (all.pathOf spot.directory) spot.name
                    | none => inside (all.pathOf spot.directory) spot.name
                | .error _ => source
              pure (relativePath (all.pathOf spot.directory) goal)
            else pure source
          modifyFiles fun files =>
            if symbolic then (files.make spot.directory spot.name (.linkTo text)).2
            else files.link spot.directory spot.name (origin.toOption.elim 0 (·.1))
          if s.verbose then
            emit (quoted target ++ (if symbolic then " -> " else " => ") ++ quoted text ++ "\n")
          return true

/-- Links files. -/
def link : Tool := fun self arguments =>
  withSettings
    ("B,backup=? d,directory n,no-dereference T,no-target-directory f,force i,interactive " ++
      "S,suffix= t,target-directory= L,logical P,physical r,relative s,symbolic v,verbose b " ++
      "F")
    {} LinkSettings.step self arguments fun s operands => do
      if s.relative && !s.symbolic then
        fail self "cannot do --relative without --symbolic"
      else
        match operands, s.directory, s.single with
        | [source], none, false =>
            forEach [source] fun source => linkOne self s source (inside "." (baseName source))
        | _, _, _ =>
            let target := operands.getLast?.getD ""
            let kept := s.keepsLinks && s.directory.isNone &&
              (← lookAt target false).toOption.any fun found => found.2.isLink
            eachPlaced self (← placementOf operands s.directory (s.single || kept)) (linkOne self s)

/-- Gives a file another name. -/
def linkName : Tool := fun self arguments =>
  withUsage "" self arguments fun u => do
    match u.operands with
    | [] => misuse self "missing operand"
    | [source] => misuse self ("missing operand after " ++ cited source)
    | [source, target] =>
        let cannot (fault : FileFault) : Run Unit :=
          fail self ("cannot create link " ++ quoted target ++ " to " ++ quoted source ++ ": "
            ++ fault.words)
        match ← lookAt source false, ← spotOf target false with
        | .error fault, _ | _, .error fault => cannot fault
        | .ok (i, node), .ok spot =>
            if node.isDirectory then cannot .notPermitted
            else if spot.node.isSome then cannot .alreadyThere
            else if !(← files).mayChange spot.directory then cannot .permissionDenied
            else
              modifyFiles fun files => files.link spot.directory spot.name i
              finish 0
    | _ :: _ :: extra :: _ => misuse self ("extra operand " ++ cited extra)

/-! ## Names that are new -/

/-- Letters that make a name unlike any other. -/
def uniqueLetters (length n : Nat) : String :=
  let digits := "0123456789abcdefghijklmnopqrstuvwxyzABCDEFGHIJKLMNOPQRSTUVWXYZ".toList
  String.ofList ((List.range length).map fun i => digits.getD ((n / Nat.pow 62 i + i) % 62) 'x')

/-- Makes a file or directory with a name that nothing has yet. -/
def makeTemporary : Tool := fun self arguments =>
  withUsage "d,directory q,quiet u,dry-run --suffix= --tmpdir=? p= t V" self arguments fun u => do
    match u.operands with
    | _ :: _ :: _ => misuse self "too many templates"
    | operands =>
        let template := operands.headD "tmp.XXXXXXXXXX"
        let suffix? := u.valueOf? "suffix"
        let cs := template.toList
        let behind := if suffix?.isSome then 0 else (cs.reverse.takeWhile (· ≠ 'X')).length
        let behind := if behind = cs.length then 0 else behind
        let body := cs.take (cs.length - behind)
        let suffix := suffix?.getD (String.ofList (cs.drop (cs.length - behind)))
        let marks := (body.reverse.takeWhile (· = 'X')).length
        if suffix?.isSome && cs.getLast? ≠ some 'X' then
          fail self ("with --suffix, template " ++ quoted template ++ " must end in X")
        else if suffix.contains '/' then
          fail self ("invalid suffix " ++ quoted suffix ++ ", contains directory separator")
        else if marks < 3 then fail self ("too few X's in template " ++ quoted template)
        else
          let named := (u.value? 'p').orElse fun _ => u.valueOf? "tmpdir"
          let given := u.has 'p' || u.hasName "tmpdir"
          let placed := operands.isEmpty || u.has 't' || given
          let fromVariable := ((← valueOf? "TMPDIR").filter (· ≠ "")).getD "/tmp"
          let home := if u.has 't' then fromVariable
            else (named.filter (· ≠ "")).getD fromVariable
          if placed && u.has 't' && template.contains '/' then
            fail self ("invalid template, " ++ quoted template ++ ", contains directory separator")
          else if placed && !u.has 't' && template.startsWith "/" then
            fail self ("invalid template, " ++ quoted template ++
              "; with --tmpdir, it may not be absolute")
          else
            let unique := uniqueLetters marks (← files).nodes.size
            let name := String.ofList (body.take (body.length - marks)) ++ unique ++ suffix
            let path := if placed then inside home name else name
            let whole := if placed then inside home template else template
            let cannot (fault : FileFault) : Run Unit := do
              if u.has 'q' then finish 1
              else
                fail self ("failed to create " ++ (if u.has 'd' then "directory" else "file")
                  ++ " via template " ++ quoted whole ++ ": " ++ fault.words)
            let made ← if u.has 'u' then return ← (do
                match ← spotOf path with
                | .error fault => cannot fault
                | .ok _ =>
                    emit (path ++ "\n")
                    finish 0)
              else if u.has 'd' then makeNode path fun place => .folder place 0o700
              else makeNode path fun _ => .plain .empty 0o600
            match made with
            | some fault => cannot fault
            | none =>
                emit (path ++ "\n")
                finish 0

end WasmBinary.Machine.Script.Tool
