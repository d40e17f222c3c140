/-
  Whom files belong to, and the tools that would change it.

  1. **Owners** are given by their names or numbers, the user in front of a colon and the group
     behind it.  A user with nothing behind the colon stands for his own group as well.

  2. **Changes** — nobody but the owner of the system may give files away, so that a user can only
     give his files to himself.  That is allowed, and takes the special rights off a plain file.

  3. **Trees** — what is in a directory comes before the directory.  Links are followed as the
     options say, and it can be asked that the whole system is left alone.
-/
import WasmBinary.Machine.Accounts
import WasmBinary.Machine.Script.Tool.Paths

namespace WasmBinary.Machine.Script.Tool

open Run

/-! ## Owners -/

/-- A user, a group, or both, and the names that they were given by. -/
structure Ownership where
  user : Option Nat := none
  group : Option Nat := none
  userName : Option String := none
  groupName : Option String := none

/-- Why a text names no owner. -/
inductive OwnerFault
  | user
  | group
  /-- There is no group behind the colon, and the user has no name to find his own by. -/
  | form
deriving DecidableEq, Repr

/-- The message about a text that names no owner. -/
def OwnerFault.message (fault : OwnerFault) (text : String) : String :=
  let what := match fault with
    | .user => "invalid user"
    | .group => "invalid group"
    | .form => "invalid spec"
  what ++ ": " ++ cited text

namespace Ownership

/-- The number that a text stands for, if a user or a group can have it. -/
def number? (text : String) : Option Nat :=
  let digits := text.toList.dropWhile (" \t\n\x0b\x0c\r".toList.contains ·)
  let digits := if digits.head? = some '+' then digits.drop 1 else digits
  if digits.isEmpty || !digits.all Char.isDigit then none
  else
    let number := Nat.ofDigitChars 10 digits 0
    if number < Nat.pow 2 32 - 1 then some number else none

/-- The name of a group. -/
def nameOfGroup (number : Nat) : String :=
  ((Account.groups.find? fun group => group.2 = number).map (·.1)).getD (toString number)

/-- The group that a text names. -/
def groupOf (text : String) : Except OwnerFault Ownership :=
  match Account.groups.lookup text with
  | some number => .ok { group := some number, groupName := some text }
  | none =>
      match number? text with
      | some number => .ok { group := some number }
      | none => .error .group

/-- The owner that two parts of a text name; the second one is missing if there is no separator. -/
def ofParts (user : String) (rest : Option String) : Except OwnerFault Ownership := do
  let owner : Ownership ←
    if user = "" then pure {}
    else
      match Account.all.find? fun account => account.name = user with
      | some account =>
          if rest = some "" then
            pure { user := some account.number, userName := some user, group := some account.group
                   groupName := some (nameOfGroup account.group) }
          else pure { user := some account.number, userName := some user }
      | none =>
          if rest = some "" then throw .form
          else
            match number? user with
            | some number => pure { user := some number }
            | none => throw .user
  match rest with
  | none | some "" => return owner
  | some text =>
      let group ← groupOf text
      return { owner with group := group.group, groupName := group.groupName }

/-- The text up to a separator, and what is behind it if it occurs. -/
def split (separator : Char) (text : String) : String × Option String :=
  let cs := text.toList
  let front := cs.takeWhile (· ≠ separator)
  (String.ofList front,
    if front.length = cs.length then none else some (String.ofList (cs.drop (front.length + 1))))

/-- The owner that a text names, and whether there is a point where a colon should be. -/
def ofText (text : String) : Except OwnerFault (Ownership × Bool) :=
  let (user, rest) := split ':' text
  match ofParts user rest with
  | .ok owner => .ok (owner, false)
  | .error fault =>
      let (user, dotted) := split '.' text
      match rest, dotted with
      | none, some group =>
          match ofParts user (some group) with
          | .ok owner => .ok (owner, true)
          | .error _ => .error fault
      | _, _ => .error fault

/-- The owner whose group has a name and whose user has none, as messages show it. -/
def shownWhole (o : Ownership) : Ownership :=
  if o.userName.isNone && o.groupName.isSome then { o with userName := some "" } else o

/-- The owner of a node. -/
def ofNode (node : Node) : Ownership :=
  let account := match node.owner with
    | .user => Account.user
    | .system => Account.root
  { user := some account.number, userName := some account.name, group := some account.group
    groupName := some (nameOfGroup account.group) }

/-- The text of a user, if there is one. -/
def userText (o : Ownership) : Option String := o.userName.orElse fun _ => o.user.map toString

/-- The text of a group, if there is one. -/
def groupText (o : Ownership) : Option String := o.groupName.orElse fun _ => o.group.map toString

/-- A user and a group in one text. -/
def pairText : Option String → Option String → Option String
  | some user, some group => some (user ++ ":" ++ group)
  | some user, none => some user
  | none, group => group

/-- Whether a node belongs to an owner, as far as that one is given. -/
def has (o : Ownership) (node : Node) : Bool :=
  let own := ofNode node
  (o.user.isNone || o.user = own.user) && (o.group.isNone || o.group = own.group)

/-- Whether a user may give a node to an owner. -/
def mayTake (o : Ownership) (node : Node) : Bool :=
  (o.user.isNone && o.group.isNone) || (node.owner = .user && o.has node)

end Ownership

/-! ## Options -/

/-- Which links to directories are followed. -/
inductive LinkManner
  | none
  | operands
  | all
deriving DecidableEq, Repr

/-- How owners are to be changed. -/
structure OwnerSettings where
  recursive : Bool := false
  verbose : Bool := false
  quiet : Bool := false
  /-- Whether what links lead to is meant, if that was said. -/
  follows : Option Bool := none
  manner : LinkManner := .none
  guarded : Bool := false
  reference : Option String := none
  /-- Whose files are meant. -/
  before : Ownership := {}

namespace OwnerSettings

/-- The next option. -/
def step (s : OwnerSettings) (option : Given) : Except Misuse OwnerSettings :=
  match option.key with
  | "R" => .ok { s with recursive := true }
  | "v" => .ok { s with verbose := true }
  | "c" => .ok { s with verbose := false }
  | "f" => .ok { s with quiet := true }
  | "h" => .ok { s with follows := some false }
  | "dereference" => .ok { s with follows := some true }
  | "H" => .ok { s with manner := .operands }
  | "L" => .ok { s with manner := .all }
  | "P" => .ok { s with manner := .none }
  | "preserve-root" => .ok { s with guarded := true }
  | "no-preserve-root" => .ok { s with guarded := false }
  | "reference" => .ok { s with reference := some option.value }
  | "from" =>
      match Ownership.ofText option.value with
      | .ok (before, _) => .ok { s with before }
      | .error fault => .error (.plain (fault.message option.value))
  | _ => .ok s

/-- The settings after all options, or what is wrong with them. -/
def completed (s : OwnerSettings) : Except String OwnerSettings :=
  if !s.recursive then .ok { s with manner := .none, guarded := false }
  else if s.manner ≠ .none then .ok s
  else if s.follows = some true then .error "-R --dereference requires either -H or -L"
  else .ok { s with follows := some false }

/-- Whether what a link leads to is meant. -/
def meansReferent (s : OwnerSettings) : Bool := s.follows ≠ some false

end OwnerSettings

/-! ## Changes -/

/-- Tells what has become of a file, if that is wanted. -/
def tellOwner (s : OwnerSettings) (path : String) (failed : Bool) (old : Option Ownership)
    (new : Ownership) : Run Unit := do
  if s.verbose then
    let user := new.userText
    let group := new.groupText
    let before := old.bind fun old => Ownership.pairText (user.bind fun _ => old.userText)
      (group.bind fun _ => old.groupText)
    let what := if user.isNone && group.isSome then "group" else "ownership"
    let earlier := match before with
      | some text => " from " ++ text
      | none => ""
    let text := match failed, Ownership.pairText user group with
      | true, some target =>
          "failed to change " ++ what ++ " of " ++ quoted path ++ earlier ++ " to " ++ target
      | true, none => "failed to change ownership of " ++ quoted path
      | false, _ =>
          what ++ " of " ++ quoted path ++ " retained" ++
            (match before with
              | some text => " as " ++ text
              | none => "")
    emit (text ++ "\n")

/-- Gives a node at a path to an owner. -/
def changeOwnerOf (self : String) (s : OwnerSettings) (new : Ownership) (path : String) (i : Nat)
    (node : Node) : Run Bool := do
  let refuse (old : Ownership) (text : String) : Run Bool := do
    unless s.quiet do say self text
    tellOwner s path true (some old) new
    return false
  let meant ← if s.meansReferent && node.isLink then lookAt path else pure (.ok (i, node))
  match meant with
  | .error fault =>
      refuse { userName := some "root", groupName := some "root" }
        ("cannot dereference " ++ quoted path ++ ": " ++ fault.words)
  | .ok (i, node) =>
      let old := Ownership.ofNode node
      if !s.before.has node then
        tellOwner s path false (some old) new
        return true
      else if s.guarded && i = 0 then
        sparesSystem self path
        return false
      else if new.mayTake node then
        if node.isPlain then
          let lost := 0o4000 ||| (if node.mode &&& 0o010 = 0 then 0 else 0o2000)
          modifyFiles fun files =>
            files.modify i fun node => { node with mode := node.mode - (node.mode &&& lost) }
        tellOwner s path false (some old) new
        return true
      else
        refuse old ("changing " ++ (if new.user.isSome then "ownership" else "group") ++ " of " ++
          quoted path ++ ": " ++ FileFault.notPermitted.words)

/-- Gives a file to an owner, and all that is in it if that is wanted.  The directories around it
    are not gone through once more. -/
def changeOwners (self : String) (s : OwnerSettings) (new : Ownership) :
    Nat → (around : List Nat) → String → Run Bool
  | 0, _, _ => return true
  | n + 1, around, path => do
      let refuse (what : String) (fault : FileFault) : Run Bool := do
        unless s.quiet do say self (what ++ quoted path ++ ": " ++ fault.words)
        tellOwner s path true none new
        return false
      let follows := s.manner = .all || (s.manner = .operands && around.isEmpty)
      let found ← lookAt path follows
      let found ← if follows && !found.isOk then lookAt path false else pure found
      match found with
      | .error fault => refuse "cannot access " fault
      | .ok (i, node) =>
          if !(s.recursive && node.isDirectory) || around.contains i then
            changeOwnerOf self s new path i node
          else if s.guarded && i = 0 then
            sparesSystem self path
            return false
          else if !node.allows .read then refuse "cannot read directory " .permissionDenied
          else
            let mut good := true
            for name in node.names do
              let fine ← changeOwners self s new n (i :: around) (inside path name)
              good := good && fine
            let fine ← changeOwnerOf self s new path i node
            return good && fine

/-- The owner that a file has that is given as an example. -/
def ownerOfExample (self path : String) : Run Ownership := do
  match ← lookAt path with
  | .ok (_, node) => return Ownership.ofNode node
  | .error fault =>
      fail self ("failed to get attributes of " ++ quoted path ++ ": " ++ fault.words)
      throw .failed

/-- Gives files to an owner that is named by the first operand, or that another file has. -/
def giveFiles (choices : String) (ofExample : Ownership → Ownership)
    (ofText : String → Except String (Ownership × Bool)) : Tool := fun self arguments =>
  withSettings choices ({} : OwnerSettings) OwnerSettings.step self arguments fun s operands => do
    match s.completed with
    | .error text => fail self text
    | .ok s =>
        match s.reference, operands with
        | some _, [] | none, [] => misuse self "missing operand"
        | none, [_] => misuse self ("missing operand after " ++ cited (arguments.getLastD ""))
        | some path, _ :: _ =>
            let new := ofExample (← ownerOfExample self path)
            forEach operands (changeOwners self s new deepest [])
        | none, text :: paths =>
            match ofText text with
            | .error message => fail self message
            | .ok (new, dotted) =>
                if dotted then say self ("warning: '.' should be ':': " ++ cited text)
                forEach paths (changeOwners self s new deepest [])

/-- Gives files to a user, and to a group. -/
def changeOwner : Tool :=
  giveFiles
    ("R,recursive c,changes --dereference --from= h,no-dereference --no-preserve-root " ++
      "--preserve-root f,quiet f,silent --reference= v,verbose H L P")
    id
    fun text =>
      match Ownership.ofText text with
      | .ok (owner, dotted) => .ok (owner.shownWhole, dotted)
      | .error fault => .error (fault.message text)

/-- Gives files to a group. -/
def changeGroup : Tool :=
  giveFiles
    ("R,recursive c,changes --dereference h,no-dereference --no-preserve-root " ++
      "--preserve-root f,quiet f,silent --reference= v,verbose H L P")
    (fun owner => { group := owner.group, groupName := owner.groupName })
    fun text =>
      if text = "" then .ok ({}, false)
      else
        match Ownership.groupOf text with
        | .ok group => .ok ({ group with groupName := some text }, false)
        | .error fault => .error (fault.message text)

end WasmBinary.Machine.Script.Tool
