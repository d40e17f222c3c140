/-
  Who uses the machine.

  1. **Accounts** — a user has a number and a group of his own, and both have names.

  2. **Sessions** — nobody has logged in, and no stream leads to a terminal.
-/
import WasmBinary.Machine.Accounts
import WasmBinary.Machine.Script.Tool.Basic

namespace WasmBinary.Machine.Script.Tool

open Run

/-! ## Accounts -/

namespace Identity

/-- The account of a name, or of a number. -/
def accountOf? (text : String) : Option Account :=
  match Account.all.find? fun a => a.name = text with
  | some a => some a
  | none =>
      let digits := if text.startsWith "+" then (text.drop 1).toString else text
      if digits = "" then none
      else digits.toNat?.bind fun number => Account.all.find? fun a => a.number = number

/-- The name of a group. -/
def groupName (number : Nat) : String :=
  ((Account.groups.find? fun group => group.2 = number).map (·.1)).getD (toString number)

/-- A number with a name behind it. -/
def pair (what : String) (number : Nat) (name : String) : String :=
  what ++ "=" ++ toString number ++ "(" ++ name ++ ")"

/-- All that is known about who somebody is. -/
def whole (a : Account) : String :=
  " ".intercalate [pair "uid" a.number a.name, pair "gid" a.group (groupName a.group),
    pair "groups" a.group (groupName a.group)]

end Identity

/-- Tells who somebody is. -/
def identify : Tool := fun self arguments =>
  withUsage "a Z,context g,group G,groups n,name r,real u,user z,zero" self arguments fun u => do
    if u.has 'Z' then
      return ← fail self "--context (-Z) works only on an SELinux-enabled kernel"
    let kinds := "ugG".toList.filter u.has
    match kinds with
    | _ :: _ :: _ => fail self "cannot print \"only\" of more than one choice"
    | [] =>
        if u.has 'n' || u.has 'r' then
          fail self "cannot print only names or real IDs in default format"
        else if u.has 'z' then fail self "option --zero not permitted in default format"
        else told u self Identity.whole "\n"
    | [kind] =>
        let name (number : Nat) (name : String) : String :=
          if u.has 'n' then name else toString number
        let text (a : Account) : String :=
          if kind = 'u' then name a.number a.name else name a.group (Identity.groupName a.group)
        let ending := if !u.has 'z' then "\n"
          else if kind = 'G' && 1 < u.operands.length then "\x00\x00" else "\x00"
        told u self text ending
where
  /-- Tells a text about each of the users that are asked for. -/
  told (u : Usage) (self : String) (text : Account → String) (ending : String) : Run Unit :=
    if u.operands.isEmpty then do
      emit (text Account.user ++ ending)
      finish 0
    else
      forEach u.operands fun word => do
        match Identity.accountOf? word with
        | some a =>
            emit (text a ++ ending)
            return true
        | none =>
            say self (quoted word ++ ": no such user")
            return false

/-- Tells the groups of users. -/
def groupNames : Tool := fun self arguments =>
  withUsage "" self arguments fun u => do
    let text (a : Account) : String := Identity.groupName a.group ++ "\n"
    if u.operands.isEmpty then
      emit (text Account.user)
      finish 0
    else
      forEach u.operands fun word => do
        match Account.all.find? fun a => a.name = word with
        | some a =>
            emit (word ++ " : " ++ text a)
            return true
        | none =>
            say self (quoted word ++ ": no such user")
            return false

/-- Runs something for a tool that takes at most so many operands. -/
def withFew (count : Nat) (self : String) (u : Usage) (act : Run Unit) (status : Nat := 1) :
    Run Unit :=
  match u.operands[count]? with
  | some extra => misuse self ("extra operand " ++ quoted extra) status
  | none => act

/-- Tells the name of the user. -/
def userName : Tool := fun self arguments =>
  withUsage "" self arguments fun u =>
    withFew 0 self u do
      emit (Account.user.name ++ "\n")
      finish 0

/-! ## Sessions -/

/-- Tells the name that the user has logged in by. -/
def loginName : Tool := fun self arguments =>
  withUsage "" self arguments fun u => withFew 0 self u (fail self "no login name")

/-- Tells the names of all users that have logged in. -/
def loginNames : Tool := fun self arguments =>
  withUsage "" self arguments fun u => withFew 1 self u (finish 0)

/-- Tells who has logged in. -/
def logins : Tool := fun self arguments =>
  withUsage ("a,all b,boot q,count d,dead H,heading l,login --lookup w,message w,mesg " ++
      "p,process r,runlevel s,short t,time u,users w,writable T m") self arguments fun u =>
    withFew 2 self u do
      if u.has 'q' then emit "\n# users=0\n"
      else if u.has 'H' then
        let states := "aTw".toList.any u.has
        let times := "adlru".toList.any u.has
        let starts := "abdlprtu".toList.any u.has
        let ends := "ad".toList.any u.has
        emit ("NAME     " ++ (if states then "  " else "") ++ "LINE         TIME         " ++
          (if times then "IDLE  " else "") ++ (if starts then "        PID " else "") ++
          "COMMENT" ++ (if ends then "  EXIT" else "") ++ "\n")
      finish 0

/-- Tells about users as people. -/
def people : Tool := fun self arguments =>
  withUsage "s f w i q b h p l" self arguments fun u => do
    if u.has 'l' then
      if u.operands.isEmpty then
        return ← misuse self "no username specified; at least one must be specified when using -l"
      for name in u.operands do
        emit ("Login name: " ++ filled 28 name ++ "\tIn real life: ")
        match Account.all.find? fun a => a.name = name with
        | none => emit " ???\n"
        | some a =>
            emit (" " ++ ((a.comment.splitOn ",").headD "") ++ "\n")
            if !u.has 'b' then
              emit ("Directory: " ++ filled 29 a.home ++ "\tShell:  " ++ a.shell ++ "\n")
            emit "\n"
    else if !u.has 'f' then
      let full := !"wiq".toList.any u.has
      emit ("Login    " ++ (if full then filled 20 "Name" else "") ++ " TTY     " ++
        (if u.has 'q' then "" else " Idle  ") ++ " When        " ++
        (if u.has 'q' || u.has 'i' then "" else " Where") ++ "\n")
    finish 0

/-- Tells which terminal the input comes from. -/
def terminalName : Tool := fun self arguments =>
  withUsage "s,silent,quiet" self arguments (fun u =>
    withFew 0 self u (do
      if !u.has 's' then emit "not a tty\n"
      finish 1) 2) 2

end WasmBinary.Machine.Script.Tool
