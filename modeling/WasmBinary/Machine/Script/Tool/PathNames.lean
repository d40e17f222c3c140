/-
  Tools for the texts of paths.
-/
import WasmBinary.Machine.Script.Lookup
import WasmBinary.Machine.Script.Tool.Paths

namespace WasmBinary.Machine.Script.Tool

open Run

/-! ## Parts of paths -/

/-- The end of what a tool writes behind a text: a line end, or a zero byte if that is wanted. -/
def endOf (u : Usage) : String := if u.has 'z' then "\x00" else "\n"

/-- A name without an ending, unless nothing would be left. -/
def withoutEnding (ending name : String) : String :=
  if ending ≠ "" && ending ≠ name && name.endsWith ending then
    String.ofList (name.toList.take (name.length - ending.length))
  else name

/-- Tells the last names of paths. -/
def lastNames : Tool := fun self arguments =>
  withUsage "+ a,multiple s,suffix= z,zero" self arguments fun u => do
      let ending := (u.value? 's').getD ""
      match u.operands with
      | [] => misuse self "missing operand"
      | path :: rest =>
          if u.has 'a' || u.has 's' then
            for path in u.operands do emit (withoutEnding ending (baseName path) ++ endOf u)
            finish 0
          else
            match rest with
            | [] =>
                emit (baseName path ++ endOf u)
                finish 0
            | [ending] =>
                emit (withoutEnding ending (baseName path) ++ endOf u)
                finish 0
            | _ :: extra :: _ => misuse self ("extra operand " ++ cited extra)

/-- Tells the directories of paths. -/
def directoryNames : Tool := fun self arguments =>
  withUsage "z,zero" self arguments fun u => do
    if u.operands.isEmpty then misuse self "missing operand"
    else
      for path in u.operands do emit (directoryName path ++ endOf u)
      finish 0

/-- What is wrong with a path, if it is to be one everywhere, or here. -/
def pathMistake (u : Usage) (path : String) : Run (Option String) := do
  let portable := u.has 'p' || u.hasName "portability"
  let strict := u.has 'P' || u.hasName "portability"
  let names := path.splitOn "/"
  let isPortable (c : Char) : Bool := c.isAlphanum || c = '.' || c = '_' || c = '-'
  if strict && names.any fun name => name.startsWith "-" then
    return some ("leading '-' in a component of file name " ++ quoted path)
  else if (strict || portable) && path = "" then return some "empty file name"
  else if portable && path.any fun c => !(isPortable c || c = '/') then
    let c := (path.toList.find? fun c => !(isPortable c || c = '/')).getD ' '
    return some ("non-portable character " ++ cited c.toString ++ " in file name " ++ quoted path)
  else
    let (longest, whole) := if portable then (14, 256) else (longestName, longestPath + 1)
    if !portable then
      if let .error fault := ← nodeAt path false then
        if fault ≠ .notFound || path = "" then
          return some (shown path ++ ": " ++ fault.words)
    if whole ≤ path.length then
      return some ("limit " ++ toString (whole - 1) ++ " exceeded by length " ++
        toString path.length ++ " of file name " ++ quoted path)
    match names.find? fun name => longest < name.length with
    | some name =>
        return some ("limit " ++ toString longest ++ " exceeded by length " ++
          toString name.length ++ " of file name component " ++ quoted name)
    | none => return none

/-- Checks whether paths could be used. -/
def checkPaths : Tool := fun self arguments =>
  withUsage "+ p P --portability" self arguments fun u => do
    if u.operands.isEmpty then misuse self "missing operand"
    else
      forEach u.operands fun path => do
        match ← pathMistake u path with
        | none => return true
        | some text =>
            say self text
            return false

/-! ## Whole paths -/

/-- How much of a path has to be there. -/
inductive Presence
  | all
  | allButLast
  | nothing
deriving DecidableEq

/-- A path with names behind it, where names that lead back take the last one away. -/
def withNames (path : String) (names : List String) : String :=
  names.foldl (fun path name =>
    if name = "" || name = "." then path
    else if name = ".." then directoryName path
    else inside path name) path

/-- The path from the root of what a spot holds. -/
def pathOfSpot (all : Files) (spot : Spot) : String :=
  match spot.node with
  | some i =>
      if all.isDirectory i then all.pathOf i else inside (all.pathOf spot.directory) spot.name
  | none => inside (all.pathOf spot.directory) spot.name

/-- The path from the root that a path stands for. -/
def wholePath (path : String) (presence : Presence) : Run (Except FileFault String) := do
  let all ← files
  match ← spotOf path with
  | .ok spot =>
      if presence = .all && spot.node.isNone then return .error .notFound
      else if spot.slashed && !(spot.node.any all.isDirectory) && spot.node.isSome &&
          presence ≠ .nothing then
        return .error .notADirectory
      else return .ok (pathOfSpot all spot)
  | .error fault =>
      if presence ≠ .nothing || path = "" then return .error fault
      else
        let names := path.splitOn "/"
        let start := if path.startsWith "/" then "/" else "."
        let fronts := (List.range names.length).reverse.map fun k =>
          (withSlash start (names.take k), names.drop k)
        for (front, rest) in fronts do
          if let .ok spot ← spotOf front then
            if spot.node.isSome then return .ok (withNames (pathOfSpot all spot) rest)
        return .error fault
where
  /-- The path of names behind a start. -/
  withSlash (start : String) (names : List String) : String :=
    let path := "/".intercalate names
    if path = "" then start else path

/-- Tells whole paths. -/
def wholePaths : Tool := fun self arguments =>
  withUsage
    ("e,canonicalize-existing m,canonicalize-missing --relative-to= --relative-base= " ++
      "q,quiet s,strip s,no-symlinks z,zero L,logical P,physical")
    self arguments fun u => do
      let presence := match u.lastOf? "em" with
        | some 'e' => Presence.all
        | some 'm' => .nothing
        | _ => .allButLast
      let whole (path : String) : Run (Except FileFault String) := do
        if u.has 's' && path ≠ "" then
          let here := (← files).pathOf (← shell).directory
          let start := if path.startsWith "/" then "/" else here
          return .ok (withNames start (path.splitOn "/"))
        else wholePath path presence
      if u.operands.isEmpty then misuse self "missing operand"
      else
        let base? := u.valueOf? "relative-base"
        let to? := (u.valueOf? "relative-to").orElse fun _ => base?
        let start? ← to?.mapM whole
        let limit? ← base?.mapM whole
        match start?, limit? with
        | some (.error fault), _ => fail self (shown (to?.getD "") ++ ": " ++ fault.words)
        | _, some (.error fault) => fail self (shown (base?.getD "") ++ ": " ++ fault.words)
        | start?, limit? =>
            let start := (start?.bind Except.toOption)
            let limit := (limit?.bind Except.toOption)
            let below (path : String) : Bool :=
              limit.all fun base => path = base || base = "/" || path.startsWith (base ++ "/")
            forEach u.operands fun path => do
              match ← whole path with
              | .ok path =>
                  let text := match start with
                    | some start =>
                        if below path && below start then relativeTo start path else path
                    | none => path
                  emit (text ++ endOf u)
                  return true
              | .error fault =>
                  unless u.has 'q' do say self (shown path ++ ": " ++ fault.words)
                  return false
where
  /-- The path that leads from a directory to another path. -/
  relativeTo (start goal : String) : String :=
    let names (path : String) : List String := (path.splitOn "/").filter (· ≠ "")
    let a := names start
    let b := names goal
    let common := ((a.zip b).takeWhile fun (x, y) => x = y).length
    let path := List.replicate (a.length - common) ".." ++ b.drop common
    if path.isEmpty then "." else "/".intercalate path

/-- Tells where links lead. -/
def linkTargets : Tool := fun self arguments =>
  withUsage
    ("f,canonicalize e,canonicalize-existing m,canonicalize-missing n,no-newline q,quiet " ++
      "s,silent v,verbose z,zero")
    self arguments fun u => do
      if u.operands.isEmpty then misuse self "missing operand"
      else
        let several := 1 < u.operands.length
        if u.has 'n' && several then say self "ignoring --no-newline with multiple arguments"
        let ending := if u.has 'n' && !several then "" else endOf u
        forEach u.operands fun path => do
          let found ← match u.lastOf? "fem" with
            | some 'f' => wholePath path .allButLast
            | some 'e' => wholePath path .all
            | some 'm' => wholePath path .nothing
            | _ =>
                match ← lookAt path false with
                | .error fault => pure (.error fault)
                | .ok (_, node) =>
                    match node.target? with
                    | some target => pure (.ok target)
                    | none => pure (.error (.other "Invalid argument"))
          match found with
          | .ok path =>
              emit (path ++ ending)
              return true
          | .error fault =>
              if u.has 'v' then say self (shown path ++ ": " ++ fault.words)
              return false

/-- Tells the directory. -/
def tellDirectory : Tool := fun self arguments =>
  withUsage "L,logical P,physical" self arguments fun u => do
    unless u.operands.isEmpty do say self "ignoring non-option arguments"
    let s ← shell
    let all ← files
    let physical := all.pathOf s.directory
    let logical ← exportedValue? "PWD"
    let fits (path : String) : Bool :=
      path.startsWith "/" && !((path.splitOn "/").any fun name => name = "." || name = "..") &&
        (all.find 0 path).toOption = some s.directory
    let wanted := u.lastOf? "LP" = some 'L'
    emit ((if wanted then (logical.filter fits).getD physical else physical) ++ "\n")
    finish 0

/-- Tells the paths of programs. -/
def programPaths : Tool := fun self arguments => do
  let isOption (word : String) : Bool := word.startsWith "-" && word ≠ "-" && word ≠ "--"
  let options := arguments.takeWhile isOption
  let letters := options.flatMap fun word => word.toList.drop 1
  let names := arguments.drop options.length
  let names := if names.head? = some "--" then names.drop 1 else names
  match letters.find? fun c => c ≠ 'a' && c ≠ 's' with
  | some c =>
      tell ("Illegal option -" ++ c.toString ++ "\n")
      emit ("Usage: " ++ self ++ " [-as] args\n")
      finish 2
  | none =>
      let search := Meaning.directoriesOf ((← valueOf? "PATH").getD Meaning.standardPath)
      let runnable (path : String) : Run Bool :=
        return (← files).executable? (← shell).directory path
      let results ← names.mapM fun name => do
        let folders := if name.contains '/' then [name]
          else search.map fun (folder : String) =>
            inside (if folder = "" then "." else folder) name
        let found ← folders.filterM runnable
        let told := if letters.contains 'a' then found else found.take 1
        unless letters.contains 's' do
          for path in told do emit (path ++ "\n")
        return !found.isEmpty
      finishWith (results.all id && !names.isEmpty)

end WasmBinary.Machine.Script.Tool
