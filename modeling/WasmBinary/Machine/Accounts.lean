/-
  The users and groups that a machine knows.

  A user has a name, a number, a group, a directory of his own, and a shell.  The files in which
  the users and groups stand have a line for each of them.
-/

namespace WasmBinary.Machine

/-- A user. -/
structure Account where
  name : String
  number : Nat
  group : Nat := number
  comment : String := name
  home : String
  shell : String := "/usr/sbin/nologin"

namespace Account

/-- The user who owns the system. -/
def root : Account :=
  { name := "root", number := 0, home := "/root", shell := "/bin/bash" }

/-- The user who works at the machine. -/
def user : Account :=
  { name := "ubuntu", number := 1000, comment := "Ubuntu", home := "/home/ubuntu"
    shell := "/bin/bash" }

/-- All users. -/
def all : List Account :=
  [ root,
    { name := "daemon", number := 1, home := "/usr/sbin" },
    { name := "bin", number := 2, home := "/bin" },
    { name := "sys", number := 3, home := "/dev" },
    { name := "sync", number := 4, group := 65534, home := "/bin", shell := "/bin/sync" },
    { name := "games", number := 5, group := 60, home := "/usr/games" },
    { name := "man", number := 6, group := 12, home := "/var/cache/man" },
    { name := "lp", number := 7, home := "/var/spool/lpd" },
    { name := "mail", number := 8, home := "/var/mail" },
    { name := "news", number := 9, home := "/var/spool/news" },
    { name := "uucp", number := 10, home := "/var/spool/uucp" },
    { name := "proxy", number := 13, home := "/bin" },
    { name := "www-data", number := 33, home := "/var/www" },
    { name := "backup", number := 34, home := "/var/backups" },
    { name := "list", number := 38, comment := "Mailing List Manager", home := "/var/list" },
    { name := "irc", number := 39, comment := "ircd", home := "/run/ircd" },
    { name := "_apt", number := 42, group := 65534, comment := "", home := "/nonexistent" },
    { name := "nobody", number := 65534, home := "/nonexistent" },
    user ]

/-- The line of a user. -/
def line (a : Account) : String :=
  ":".intercalate
    [a.name, "x", toString a.number, toString a.group, a.comment, a.home, a.shell] ++ "\n"

/-- The text in which all users stand. -/
def listing : String := String.join (all.map line)

/-- The number of the user of a name, or of a number that stands for itself. -/
def number? (text : String) : Option Nat :=
  match all.find? fun a => a.name = text with
  | some a => some a.number
  | none => if text ≠ "" && text.all Char.isDigit then text.toNat? else none

/-- The names and numbers of all groups. -/
def groups : List (String × Nat) :=
  [ ("root", 0), ("daemon", 1), ("bin", 2), ("sys", 3), ("adm", 4), ("tty", 5), ("disk", 6),
    ("lp", 7), ("mail", 8), ("news", 9), ("uucp", 10), ("man", 12), ("proxy", 13), ("kmem", 15),
    ("dialout", 20), ("fax", 21), ("voice", 22), ("cdrom", 24), ("floppy", 25), ("tape", 26),
    ("sudo", 27), ("audio", 29), ("dip", 30), ("www-data", 33), ("backup", 34), ("operator", 37),
    ("list", 38), ("irc", 39), ("src", 40), ("shadow", 42), ("utmp", 43), ("video", 44),
    ("sasl", 45), ("plugdev", 46), ("staff", 50), ("games", 60), ("users", 100),
    ("nogroup", 65534), (user.name, user.group) ]

/-- The text in which all groups stand. -/
def groupListing : String :=
  String.join (groups.map fun (name, number) => name ++ ":x:" ++ toString number ++ ":\n")

/-- The number of the group of a name, or of a number that stands for itself. -/
def groupNumber? (text : String) : Option Nat :=
  match groups.lookup text with
  | some number => some number
  | none => if text ≠ "" && text.all Char.isDigit then text.toNat? else none

end Account

end WasmBinary.Machine
