/-
  What is looked for among files.

  1. **Goals** — a goal is met by a file or not.  Goals are tests and actions, joined by "not",
     "and", "or", and by a comma, behind which only the second one counts.

  2. **Visits** — goals are tried on files that are visited on the way through directories.

  3. **Formats** tell facts about a visited file.
-/
import WasmBinary.Machine.Script.Tool.Facts
import WasmBinary.Machine.Script.Tool.Starting

namespace WasmBinary.Machine.Script.Tool.Find

open Run

/-- A file on the way through directories. -/
structure Visit where
  /-- Its path, and the path that the way started at. -/
  path : String
  start : String
  depth : Nat
  /-- Its node, with or without following links, as it is asked for. -/
  number : Nat
  node : Node
  /-- The node behind a link. -/
  beyond : Except FileFault Node
  files : Files
  now : Int
  zone : Calendar.Zone

/-- The name of a visited file. -/
def Visit.name (v : Visit) : String :=
  let bare := Files.withoutSlashes v.path
  if bare = "" then if v.path = "" then "" else "/" else (bare.splitOn "/").getLast?.getD ""

/-- How a number has to be. -/
inductive Measure
  | exactly (n : Nat)
  | more (n : Nat)
  | less (n : Nat)

namespace Measure

/-- Whether a number is as it has to be. -/
def fits (k : Nat) : Measure → Bool
  | exactly n => k = n
  | more n => n < k
  | less n => k < n

/-- The measure that a text is. -/
def ofText? (text : String) : Option Measure := do
  let number (cs : List Char) : Option Nat :=
    if cs.isEmpty || !cs.all Char.isDigit then none else some (Nat.ofDigitChars 10 cs 0)
  match text.toList with
  | '+' :: cs => return more (← number cs)
  | '-' :: cs => return less (← number cs)
  | cs => return exactly (← number cs)

end Measure

/-- What is done with a file. -/
inductive Action
  /-- Writes its path, and something behind it. -/
  | print (ending : String) (output : Option Nat)
  | format (pieces : List Char) (output : Option Nat)
  | list (output : Option Nat)
  /-- Runs a program, perhaps in the directory of the file, perhaps only if the user agrees. -/
  | run (words : List String) (inDirectory asks : Bool)
  /-- Gathers paths for a program; the number tells such actions apart. -/
  | gather (index : Nat) (inDirectory : Bool)
  | delete
  /-- Does not look into the directory. -/
  | prune
  | quit

/-- What a file is asked for. -/
inductive Goal
  | test (holds : Visit → Bool)
  | act (action : Action)
  | neither (g : Goal)
  | both (a b : Goal)
  | either (a b : Goal)
  | list (a b : Goal)

/-! ## Formats -/

/-- A moment as formats show it; the point says where the parts of the second go. -/
def timeField (zone : Calendar.Zone) (moment : Int) (letter : Char) : String :=
  let m := Calendar.Moment.ofNanoseconds moment zone
  let fraction := m.text ".%N" ++ "0"
  match letter with
  | '@' => m.text "%s" ++ fraction
  | '+' => m.text "%Y-%m-%d+%H:%M:%S" ++ fraction
  | 'S' => m.text "%S" ++ fraction
  | 'T' | 'X' => m.text "%H:%M:%S" ++ fraction
  | 'r' => m.text "%I:%M:%S" ++ fraction ++ m.text " %p"
  | 'c' => m.text "%a %b %e %H:%M:%S" ++ fraction ++ m.text " %Y"
  | letter => m.text ("%" ++ letter.toString)

/-- Whether a letter asks for a part of a moment. -/
def isTimeLetter (c : Char) : Bool := "@HIklMpprSTXZaAbBcdDhjmUwWxyY+sFgGuVCeR".contains c

/-- What is in front of the last name of a visited path. -/
def leadingPart (path : String) : String :=
  let cs := path.toList
  let back := cs.reverse.dropWhile fun c => c != '/'
  if back.isEmpty then "." else String.ofList (back.drop 1).reverse

/-- The last name of a visited path, with the slashes behind it. -/
def trailingPart (path : String) : String :=
  let cs := path.toList.reverse
  let slashes := cs.takeWhile (· = '/')
  let name := (cs.drop slashes.length).takeWhile fun c => c != '/'
  if name.isEmpty then "/" else String.ofList (name.reverse ++ slashes)

/-- The letter for the kind of a node. -/
def kindOf (node : Node) : Char := if node.isPlain then 'f' else node.kindLetter

/-- What a letter in a format stands for, and whether it is a number. -/
def fieldOf? (v : Visit) (s : FactStyle) (letter : Char) : Option (Bool × String) :=
  let fact (c : Char) : Option (Bool × String) := factOf v.files v.zone v.path v.number v.node s c
  match letter with
  | 'p' => some (false, v.path)
  | 'f' => some (false, trailingPart v.path)
  | 'h' => some (false, leadingPart v.path)
  | 'H' => some (false, v.start)
  | 'P' =>
      let below := String.ofList (v.path.toList.drop v.start.length)
      some (false, if below.startsWith "/" then String.ofList (below.toList.drop 1) else below)
  | 'd' => some (true, toString v.depth)
  | 's' => some (true, toString v.node.size)
  | 'm' => some (true, (if s.alternate && v.node.mode != 0 then "0" else "") ++ octal v.node.mode)
  | 'M' => fact 'A'
  | 'y' => some (false, (kindOf v.node).toString)
  | 'Y' => some (false, match v.beyond with
      | .ok node => (kindOf node).toString
      | .error .tooManyLinks => "L"
      | .error _ => "N")
  | 'l' => some (false, v.node.target?.getD "")
  | 'n' => fact 'h'
  | 'i' => fact 'i'
  | 'u' => fact 'U'
  | 'g' => fact 'G'
  | 'U' => fact 'u'
  | 'G' => fact 'g'
  | 'b' => fact 'b'
  | 'k' => some (true, toString (blocksOf v.node))
  | 'D' => fact 'd'
  | 'a' => some (false, timeField v.zone v.node.used 'c')
  | 'c' | 't' => some (false, timeField v.zone v.node.changed 'c')
  | 'S' => some (false, "1")
  | 'F' => some (false, "ext4")
  | 'Z' => some (false, "")
  | _ => none

/-- What an escape of a format stands for, and how many characters behind the backslash it has. -/
def escape? : List Char → Option (String × Nat)
  | 'a' :: _ => some ("\x07", 1)
  | 'b' :: _ => some ("\x08", 1)
  | 'f' :: _ => some ("\x0c", 1)
  | 'n' :: _ => some ("\n", 1)
  | 'r' :: _ => some ("\x0d", 1)
  | 't' :: _ => some ("\t", 1)
  | 'v' :: _ => some ("\x0b", 1)
  | '\\' :: _ => some ("\\", 1)
  | cs =>
      let octal := (cs.take 3).takeWhile fun c => '0' ≤ c && c ≤ '7'
      if octal.isEmpty then none
      else some ((Char.ofNat (Nat.ofDigitChars 8 octal 0 % 256)).toString, octal.length)

/-- The text of a format for a visited file. -/
def formatted (v : Visit) : Nat → List Char → String
  | 0, _ | _, [] => ""
  | _, '\\' :: 'c' :: _ => ""
  | n + 1, '\\' :: rest =>
      match escape? rest with
      | some (text, length) => text ++ formatted v n (rest.drop length)
      | none => "\\" ++ formatted v n rest
  | n + 1, '%' :: '%' :: rest => "%" ++ formatted v n rest
  | n + 1, '%' :: rest =>
      let (style, behind) := FactStyle.read rest
      let timed (moment : Int) (c : Char) : String := style.fill false (timeField v.zone moment c)
      match behind with
      | 'A' :: c :: more => timed v.node.used c ++ formatted v n more
      | 'B' :: _ :: more => formatted v n more
      | 'C' :: c :: more | 'T' :: c :: more => timed v.node.changed c ++ formatted v n more
      | letter :: more =>
          (match fieldOf? v style letter with
            | some (numeric, text) => style.fill numeric text
            | none => "%" ++ String.ofList (rest.take (rest.length - more.length))) ++
            formatted v n more
      | [] => ""
  | n + 1, c :: rest => c.toString ++ formatted v n rest

/-- What is wrong with a format: things to be said about it, and what makes it useless, if
    anything. -/
def complaints : Nat → List Char → List String × Option String
  | 0, _ | _, [] => ([], none)
  | _, '\\' :: 'c' :: _ => ([], none)
  | n + 1, '\\' :: rest =>
      match escape? rest, rest with
      | some (_, length), _ => complaints n (rest.drop length)
      | none, [] => ([], none)
      | none, c :: rest =>
          let (others, fatal) := complaints n rest
          (("warning: unrecognized escape " ++ (Char.ofNat 0x60).toString ++ "\\" ++ c.toString ++
            "'") :: others, fatal)
  | n + 1, '%' :: '%' :: rest => complaints n rest
  | n + 1, '%' :: rest =>
      let (_, behind) := FactStyle.read rest
      match behind with
      | [] => ([], some "error: % at end of format string")
      | [letter] =>
          if "ABCT".contains letter then
            let complaint := " must be followed by a time format letter"
            ([], some ("error: %" ++ letter.toString ++ complaint))
          else complaintsAbout n letter []
      | letter :: c :: more =>
          if "ABCT".contains letter then
            if isTimeLetter c then complaints n more
            else
              let (others, fatal) := complaints n more
              (("warning: unrecognized format directive " ++ (Char.ofNat 0x60).toString ++ "%" ++
                letter.toString ++ "'") :: others, fatal)
          else complaintsAbout n letter (c :: more)
  | n + 1, _ :: rest => complaints n rest
where
  /-- What is wrong with a letter and with what follows it. -/
  complaintsAbout (n : Nat) (letter : Char) (rest : List Char) : List String × Option String :=
    let (others, fatal) := complaints n rest
    if "pfhHPdsmMyYlniugUGbkDactSFZ".contains letter then (others, fatal)
    else (("warning: unrecognized format directive " ++ (Char.ofNat 0x60).toString ++ "%" ++
      letter.toString ++ "'") :: others, fatal)

/-- The line that tells everything about a visited file. -/
def longLine (v : Visit) : String :=
  let right (width : Nat) (text : String) : String := String.ofList (text.toList.leftpad width ' ')
  let (owner, _) := ownerOf v.node
  let m := Calendar.Moment.ofNanoseconds v.node.changed v.zone
  let recent := v.now - v.node.changed < 15778476 * 1000000000 &&
    v.node.changed ≤ v.now + 3600000000000
  let time := m.text (if recent then "%b %e %H:%M" else "%b %e  %Y")
  right 9 (toString v.number) ++ " " ++ right 6 (toString (blocksOf v.node)) ++ " " ++
    v.node.kindLetter.toString ++ Node.rightsText v.node.mode ++ " " ++
    right 3 (toString (v.files.nameCount v.number)) ++ " " ++ filled 8 owner ++ " " ++
    filled 8 owner ++ " " ++ right 8 (toString v.node.size) ++ " " ++ time ++ " " ++
    escapedName v.path ++
    (match v.node.target? with
      | some target => " -> " ++ escapedName target
      | none => "") ++ "\n"

end WasmBinary.Machine.Script.Tool.Find
