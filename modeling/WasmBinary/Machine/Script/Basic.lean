/-
  Scripts: the command language that small programs on the machine are written in.

  This is the POSIX shell language.  Commands are simple commands with assignments and
  redirections, joined by pipes, by `;`, `&`, `&&` and `||`; the compound commands for loops,
  branches, pattern matches, groups and subshells; and definitions of functions.  Words are made of
  parts, each of which knows whether it stands between quotes, because only what an unquoted part
  comes to is split into fields and taken for a pattern.

  All texts are byte texts.
-/

namespace WasmBinary.Machine.Script

/-- What a substitution does with the value of its parameter. -/
inductive Change
  /-- Takes another text where there is no value. -/
  | orElse
  /-- Takes another text where there is no value, and assigns it. -/
  | assign
  /-- Fails with a message where there is no value. -/
  | require
  /-- Takes another text where there is a value. -/
  | instead
  /-- Cuts a shortest or longest match of a pattern off the front. -/
  | cutFront (longest : Bool)
  /-- Cuts a shortest or longest match of a pattern off the back. -/
  | cutBack (longest : Bool)
deriving DecidableEq, Repr

/-- What a redirection does with the file that it opens. -/
inductive Opening
  | replace
  /-- The same, even where files that are there are kept. -/
  | insistently
  | append
  | input
  /-- For reading and for writing, from the start of what is there. -/
  | both
deriving DecidableEq, Repr

mutual

/-- A piece of a word. -/
inductive Part
  | text (text : String) (quoted : Bool)
  | parameter (name : String) (quoted : Bool)
  /-- The length of the value of a parameter. -/
  | length (name : String) (quoted : Bool)
  /-- A parameter whose value is changed; with a colon, an empty value counts as none. -/
  | changed (name : String) (change : Change) (colon : Bool) (word : List Part) (quoted : Bool)
  /-- A substitution that is none. -/
  | malformed
  /-- What a command writes to its output. -/
  | output (command : Command) (quoted : Bool)
  | arithmetic (expression : List Part) (quoted : Bool)

/-- A stream that is led elsewhere. -/
inductive Redirection
  | file (stream : Nat) (opening : Opening) (target : List Part)
  | duplicate (stream : Nat) (source : List Part)
  /-- Reads the text of a here document, which is known by its number. -/
  | here (stream : Nat) (document : Nat)

/-- What a script can say.  Commands that can complain know their line. -/
inductive Command
  | nothing
  | simple (line : Nat) (assignments : List (String × List Part)) (words : List (List Part))
      (redirections : List Redirection)
  | pipe (commands : List Command)
  | sequence (commands : List Command)
  | background (command : Command)
  | andThen (left right : Command)
  | orElse (left right : Command)
  | not (command : Command)
  /-- Repeats the body while the condition's success is as wanted. -/
  | loop (wanted : Bool) (condition body : Command)
  | branch (condition yes no : Command)
  | choose (line : Nat) (subject : List Part) (arms : List (List (List Part) × Command))
  | each (line : Nat) (name : String) (words : List (List Part)) (body : Command)
  | subshell (line : Nat) (command : Command) (redirections : List Redirection)
  | redirected (line : Nat) (command : Command) (redirections : List Redirection)
  | define (name : String) (body : Command)

end

/-- A word of a script. -/
abbrev Word := List Part

/-- A word without any parts that is there nevertheless. -/
def emptyWord : Word := [.text "" true]

/-- The quoted text of a word that has no other parts. -/
def plainText (word : Word) : String :=
  String.join <| word.map fun
    | .text text _ => text
    | _ => ""

instance : Inhabited Command := ⟨.nothing⟩

end WasmBinary.Machine.Script
