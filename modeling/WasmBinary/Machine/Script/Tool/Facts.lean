/-
  Telling what is known about files.

  A format is a text in which a percent sign and a letter stand for a fact.  Between them there may
  be flags, a width and a precision.
-/
import WasmBinary.Machine.Script.Tool.Listing

namespace WasmBinary.Machine.Script.Tool

open Run

/-! ## Fields -/

/-- Flags, a width and a precision. -/
structure FactStyle where
  left : Bool := false
  zeros : Bool := false
  alternate : Bool := false
  width : Nat := 0
  precision : Option Nat := none

/-- Reads the style in front of a letter: the style and what follows it. -/
def FactStyle.read (cs : List Char) : FactStyle × List Char :=
  let flags := cs.takeWhile fun c => "-0# +'".contains c
  let rest := cs.drop flags.length
  let width := rest.takeWhile Char.isDigit
  let rest := rest.drop width.length
  let (precision, rest) := match rest with
    | '.' :: more =>
        let digits := more.takeWhile Char.isDigit
        (some (Nat.ofDigitChars 10 digits 0), more.drop digits.length)
    | rest => (none, rest)
  ({ left := flags.contains '-', zeros := flags.contains '0', alternate := flags.contains '#'
     width := Nat.ofDigitChars 10 width 0, precision }, rest)

/-- A text, filled up to the width of a style. -/
def FactStyle.fill (s : FactStyle) (numeric : Bool) (text : String) : String :=
  let text := match s.precision with
    | some n => if numeric then String.ofList (text.toList.leftpad n '0')
        else String.ofList (text.toList.take n)
    | none => text
  if s.left then filled s.width text
  else String.ofList (text.toList.leftpad s.width (if s.zeros && numeric then '0' else ' '))

/-! ## Facts -/

/-- A moment in full. -/
def fullTime (zone : Calendar.Zone) (moment : Int) : String :=
  (Calendar.Moment.ofNanoseconds moment zone).text "%Y-%m-%d %H:%M:%S.%N %z"

/-- The seconds of a moment, with as many places as a precision asks for. -/
def secondsText (s : FactStyle) (moment : Int) : String :=
  let seconds := Int.fdiv moment 1000000000
  let nanos := (moment - seconds * 1000000000).toNat
  match s.precision with
  | none => toString seconds
  | some n =>
      let places := if n = 0 then 9 else n
      let digits := ((Nat.toDigits 10 nanos).leftpad 9 '0').rightpad places '0'
      toString seconds ++ "." ++ String.ofList (digits.take places)

/-- The mode with the kind of the node. -/
def rawMode (node : Node) : Nat :=
  node.mode + match node.kindLetter with
    | 'd' => 0o040000
    | 'l' => 0o120000
    | 'c' => 0o020000
    | 'p' => 0o010000
    | _ => 0o100000

/-- A fact about a file, by the letter that asks for it, and whether it is a number. -/
def factOf (all : Files) (zone : Calendar.Zone) (path : String) (i : Nat) (node : Node)
    (s : FactStyle) (letter : Char) : Option (Bool × String) :=
  let (owner, id) := ownerOf node
  match letter with
  | 'n' => some (false, path)
  | 'N' => some (false, match node.target? with
      | some target => quoted path ++ " -> " ++ quoted target
      | none => quoted path)
  | 's' => some (true, toString node.size)
  | 'F' => some (false, kindText node)
  | 'a' => some (true, (if s.alternate && node.mode != 0 then "0" else "") ++ octal node.mode)
  | 'A' => some (false, node.kindLetter.toString ++ Node.rightsText node.mode)
  | 'f' => some (true, String.ofList (Nat.toDigits 16 (rawMode node)))
  | 'h' => some (true, toString (all.nameCount i))
  | 'i' => some (true, toString i)
  | 'u' | 'g' => some (true, toString id)
  | 'U' | 'G' => some (false, owner)
  | 'b' => some (true, toString (blocksOf node * 2))
  | 'B' => some (true, "512")
  | 'o' => some (true, "4096")
  | 'd' => some (true, "1")
  | 'D' => some (true, "1")
  | 't' | 'T' => some (true, if node.isDevice then "1" else "0")
  | 'm' => some (false, "/")
  | 'C' => some (false, "?")
  | 'x' => some (false, fullTime zone node.used)
  | 'y' | 'z' => some (false, fullTime zone node.changed)
  | 'w' => some (false, "-")
  | 'X' => some (true, secondsText s node.used)
  | 'Y' | 'Z' => some (true, secondsText s node.changed)
  | 'W' => some (true, "0")
  | _ => none

/-- The text of a format for a file.  Where escapes mean something, they are resolved. -/
def factsText (escapes : Bool) (fact : FactStyle → Char → Option (Bool × String)) :
    Nat → List Char → String
  | 0, _ | _, [] => ""
  | n + 1, '%' :: '%' :: rest => "%" ++ factsText escapes fact n rest
  | n + 1, '%' :: rest =>
      let (style, behind) := FactStyle.read rest
      let behind := match behind with
        | 'H' :: c :: more | 'L' :: c :: more => if "dDtTr".contains c then c :: more else behind
        | _ => behind
      match behind with
      | [] => "%"
      | letter :: more =>
          let bare := if "XYZW".contains letter then { style with precision := none } else style
          (match fact style letter with
            | some (numeric, text) => bare.fill numeric text
            | none => "?") ++ factsText escapes fact n more
  | n + 1, '\\' :: c :: rest =>
      if !escapes then "\\" ++ factsText escapes fact n (c :: rest)
      else
        let octal := ((c :: rest).take 3).takeWhile fun c => '0' ≤ c && c ≤ '7'
        if !octal.isEmpty then
          (Char.ofNat (Nat.ofDigitChars 8 octal 0 % 256)).toString ++
            factsText escapes fact n ((c :: rest).drop octal.length)
        else
          let text := match c with
            | 'a' => "\x07"
            | 'b' => "\x08"
            | 'e' => "\x1b"
            | 'f' => "\x0c"
            | 'n' => "\n"
            | 'r' => "\x0d"
            | 't' => "\t"
            | 'v' => "\x0b"
            | '"' | '\\' => c.toString
            | c => "\\" ++ c.toString
          text ++ factsText escapes fact n rest
  | n + 1, c :: rest => c.toString ++ factsText escapes fact n rest

/-- What is told about a file if nothing is said about it. -/
def usualFacts (node : Node) : String :=
  "  File: %N\n  Size: %-10s\tBlocks: %-10b IO Block: %-6o %F\n" ++
    "Device: 0,1\tInode: %-11i Links: %-5h" ++
    (if node.isDevice then " Device type: 1,3" else "") ++
    "\nAccess: (%04a/%10.10A)  Uid: (%5u/%8U)   Gid: (%5g/%8G)\n" ++
    "Access: %x\nModify: %y\nChange: %z\n Birth: %w\n"

/-- What is told about a file in a single line. -/
def terseFacts : String := "%n %s %b %f %u %g %D %i %h %t %T %X %Y %Z %W %o\n"

/-- Tells facts about files. -/
def facts : Tool := fun self arguments =>
  withUsage "L,dereference f,file-system c,format= --printf= t,terse --cached=" self arguments
    fun u => do
      if u.operands.isEmpty then misuse self "missing operand"
      else
        let zone ← zoneOfUser
        let given := u.options.filter fun option => option.key = "c" || option.key = "printf"
        forEach u.operands fun path => do
          let found ← if path = "-" then do
              match ← meant "/dev/stdin" with
              | .ok (.node i) => pure (((← files).node? i).elim (.error .notFound)
                  fun node => .ok (i, node))
              | .ok (.pipe _) => pure (.ok (0, ({ content := .queue, mode := 0o600 } : Node)))
              | .error fault => pure (.error fault)
            else if (streamOfPath? path).isSome then
              pure ((← nodeMeant path).map fun node => (0, node))
            else lookAt path (u.has 'L')
          match found with
          | .error fault =>
              say self ("cannot statx " ++ quoted path ++ ": " ++ fault.words)
              return false
          | .ok (i, node) =>
              let all ← files
              let text (escapes : Bool) (format : String) : String :=
                factsText escapes (factOf all zone path i node) (format.length + 1) format.toList
              emit (match given.getLast? with
                | some option =>
                    if option.key = "printf" then text true option.value
                    else text false option.value ++ "\n"
                | none => text false (if u.has 't' then terseFacts else usualFacts node))
              return true

end WasmBinary.Machine.Script.Tool
