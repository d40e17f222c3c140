/-
  Looking for files.

  1. **The way** leads from each operand through the directories below it, as deep as it may, and
     tries the goal on every file; a directory is tried before or after what is in it.

  2. **Actions** happen when the goal comes to them.  Programs that take many paths are run at the
     end.

  3. **Faults** are told, and the search goes on.
-/
import WasmBinary.Machine.Script.Tool.Find.Reading
import WasmBinary.Machine.Script.Tool.Remove

namespace WasmBinary.Machine.Script.Tool.Find

open Run

/-- How far a search has come. -/
structure Progress where
  failed : Bool := false
  /-- Whether the directory that is visited is left out. -/
  pruned : Bool := false
  stopped : Bool := false
  /-- The paths that are gathered, for each program, the latest first. -/
  gathered : List (Nat × String) := []

/-- Searching. -/
abbrev Searching := StateT Progress Run

/-- Writes to the output of an action. -/
def write (output : Option Nat) (text : String) : Run Unit := do
  match output with
  | none => emit text
  | some number =>
      let _ ← writeOpened number (ByteText.toBytes text)

/-- The path by which a program that runs in the directory of a file knows the file. -/
def pathThere (v : Visit) : String :=
  if v.path.startsWith "/" && v.name = "/" then "/" else "./" ++ v.name

/-- Runs something in the directory of a file. -/
def inDirectoryOf (v : Visit) (inDirectory : Bool) (body : Run Unit) : Run Unit := do
  if !inDirectory then body
  else
    let directory := directoryName v.path
    match ← nodeAt directory with
    | .error _ => return
    | .ok i =>
        keepingShell (fun before after =>
          { after with directory := before.directory, directoryPath := before.directoryPath }) do
          modifyShell fun s =>
            { s with
              directory := i
              directoryPath := v.files.pathOf i }
          body

/-- Runs a program for a file: whether it succeeds. -/
def runFor (start : Starter) (self : String) (words : List String) : Run Bool := do
  match words with
  | [] => return true
  | name :: arguments =>
      match ← startNamed start name arguments with
      | some fault =>
          say self (quoted name ++ ": " ++ fault.words)
          return false
      | none => return (← shell).status = 0

/-- Does what an action says: whether it succeeds. -/
def act (start : Starter) (self : String) (plan : Plan) (v : Visit) : Action → Searching Bool
  | .print ending output => do
      (write output (v.path ++ ending) : Run Unit)
      return true
  | .format pieces output => do
      (write output (formatted v (pieces.length + 1) pieces) : Run Unit)
      return true
  | .list output => do
      (write output (longLine v) : Run Unit)
      return true
  | .run words inDirectory asks => do
      let path := if inDirectory then pathThere v else v.path
      let words := words.map fun word => word.replace "\x7b\x7d" path
      let agreed ← if asks then
          (agrees ("< " ++ words.headD "" ++ " ... " ++ v.path ++ " > ? ") : Run Bool)
        else pure true
      if !agreed then return false
      else
        let before := (← getThe State).shell.status
        let succeeded ← (do
          inDirectoryOf v inDirectory do
            let ok ← runFor start self words
            finish (if ok then 0 else 1)
          let ok := (← shell).status = 0
          finish before
          return ok : Run Bool)
        return succeeded
  | .gather index inDirectory => do
      let path := if inDirectory then pathThere v else v.path
      modify fun p => { p with gathered := (index, path) :: p.gathered }
      if inDirectory then
        let some g := plan.gatherings[index]? | return true
        let paths := (← get).gathered.filter fun entry => entry.1 = index
        modify fun p => { p with gathered := p.gathered.filter fun entry => entry.1 ≠ index }
        let words := g.front ++ (paths.map Prod.snd).reverse ++ g.behind
        (inDirectoryOf v true do
          let ok ← runFor start self words
          finish (if ok then 0 else 1) : Run Unit)
        if (← getThe State).shell.status ≠ 0 then modify fun p => { p with failed := true }
      return true
  | .delete => do
      if v.path = "." || v.path = "./" then return true
      let fault ← (do
        match ← spotOf v.path false with
        | .error fault => return some fault
        | .ok spot =>
            if v.node.isDirectory && !v.node.entries.isEmpty then return some .notEmpty
            else dropName spot v.number : Run (Option FileFault))
      match fault with
      | none => return true
      | some fault =>
          (say self ("cannot delete " ++ quoted v.path ++ ": " ++ fault.words) : Run Unit)
          modify fun p => { p with failed := true }
          return false
  | .prune => do
      modify fun p => { p with pruned := true }
      return true
  | .quit => do
      modify fun p => { p with stopped := true }
      return true

/-- Tries a goal on a visited file. -/
def tried (start : Starter) (self : String) (plan : Plan) (v : Visit) : Goal → Searching Bool
  | .test holds => return holds v
  | .act action => act start self plan v action
  | .neither g => do
      let met ← tried start self plan v g
      return !met
  | .both a b => do
      if (← tried start self plan v a) && !(← get).stopped then tried start self plan v b
      else return false
  | .either a b => do
      if ← tried start self plan v a then return true
      else if (← get).stopped then return false
      else tried start self plan v b
  | .list a b => do
      let _ ← tried start self plan v a
      if (← get).stopped then return false else tried start self plan v b

/-- Tells that a path cannot be looked at. -/
def lament (self path : String) (fault : FileFault) : Searching Unit := do
  (say self (quoted path ++ ": " ++ fault.words) : Run Unit)
  modify fun p => { p with failed := true }

/-- The node of a path, with its number: a link itself, if it is not to be followed or leads
    nowhere. -/
def nodeOfPath (path : String) (follows : Bool) : Run (Except FileFault (Nat × Node)) := do
  if follows then
    match ← lookAt path with
    | .ok found => return .ok found
    | .error .notFound => lookAt path false
    | .error fault => return .error fault
  else lookAt path false

/-- Visits a path and what is below it. -/
def visit (starter : Starter) (self : String) (plan : Plan) (goal : Goal) (start : String) :
    Nat → (depth : Nat) → (above : List Nat) → String → Searching Unit
  | 0, _, _, _ => return
  | n + 1, depth, above, path => do
      if (← get).stopped then return
      let follows := plan.following = .always || (plan.following = .operands && depth = 0)
      match ← (nodeOfPath path follows : Run _) with
      | .error fault => lament self path fault
      | .ok (i, node) =>
          if above.contains i && node.isDirectory then
            (say self ("File system loop detected; " ++ quoted path ++
              " is part of the same file system loop as " ++ quoted start ++ ".") : Run Unit)
            modify fun p => { p with failed := true }
          else
            let beyond : Except FileFault Node ←
              ((do return (← lookAt path).map Prod.snd) : Run _)
            let files := (← getThe State).world.files
            let v : Visit :=
              { path, start, depth, number := i, node, beyond, files, now := plan.now
                zone := plan.zone }
            let here : Searching Unit := do
              if plan.least ≤ depth && !(← get).stopped then
                let latest := (← getThe State).world.files
                let node := (latest.node? i).getD node
                let _ ← tried starter self plan { v with files := latest, node } goal
            modify fun p => { p with pruned := false }
            if !plan.childrenFirst then here
            let pruned := (← get).pruned && !plan.childrenFirst
            modify fun p => { p with pruned := false }
            let deeper := plan.most.all fun most => decide (depth < most)
            if node.isDirectory && deeper && !pruned && !(← get).stopped then
              match ← (lookAt path follows : Run _) with
              | .error fault => lament self path fault
              | .ok (_, now) =>
                  if !now.allows .read then lament self path .permissionDenied
                  else
                    for name in now.names do
                      visit starter self plan goal start n (depth + 1) (i :: above)
                        (inside path name)
            if plan.childrenFirst then here

/-- Runs the programs that paths were gathered for. -/
def settle (start : Starter) (self : String) (plan : Plan) : Searching Unit := do
  for (g, index) in plan.gatherings.zipIdx do
    let paths := ((← get).gathered.filter fun entry => entry.1 = index).map Prod.snd
    if !paths.isEmpty then
      let ok ← (runFor start self (g.front ++ paths.reverse ++ g.behind) : Run Bool)
      if !ok then modify fun p => { p with failed := true }

/-- Looks for what a goal asks for, below all operands. -/
def searchAll (start : Starter) (self : String) (plan : Plan) (goal : Goal)
    (operands : List String) : Searching Unit := do
  for path in operands do
    visit start self plan goal path deepest 0 [] path
  settle start self plan

/-- The options in front of the operands: when links are followed, and the words behind them. -/
def leadingOptions (following : Following) : List String → Except Misuse (Following × List String)
  | "-H" :: rest => leadingOptions .operands rest
  | "-L" :: rest => leadingOptions .always rest
  | "-P" :: rest => leadingOptions .never rest
  | ["-D"] => .error (.hinted "Missing argument after the -D option.")
  | "-D" :: _ :: rest => leadingOptions following rest
  | "--" :: rest => .ok (following, rest)
  | word :: rest =>
      if word.startsWith "-O" then leadingOptions following rest else .ok (following, word :: rest)
  | [] => .ok (following, [])

/-- Finds files. -/
def find (start : Starter) : Tool := fun self arguments => do
  match leadingOptions .never arguments with
  | .error m => m.report self 1
  | .ok (following, words) =>
      let operands := words.takeWhile fun word => !isExpression word true
      let plan : Plan := { following, now := (← files).now, zone := ← zoneOfUser }
      let expression := words.drop operands.length
      match ← (readWords self (expression.length + 1) expression).run plan |>.run with
      | .error m => m.report self 1
      | .ok (_, plan) =>
          match goalOf plan.parts with
          | .error text => fail self text
          | .ok goal =>
              let goal := if plan.acts then goal else .both goal (.act (.print "\n" none))
              let operands := if operands.isEmpty then ["."] else operands
              let (_, progress) ← (searchAll start self plan goal operands).run {}
              finish (if progress.failed then 1 else 0)

end WasmBinary.Machine.Script.Tool.Find
