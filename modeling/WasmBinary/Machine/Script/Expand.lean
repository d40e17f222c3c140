/-
  What words stand for.

  1. **Parts** are replaced by pieces of text.  Each piece knows whether it is split where
     separators are, and whether its characters can be active in a pattern.  What was quoted is
     neither split nor active.

  2. **Fields** — the pieces of a word are put together, and split.  White separators at both ends
     of a field vanish; any other separator ends a field, be it empty.

  3. **Names** — a field that is a pattern is replaced by the names of the files that fit, in
     order, if there are any.

  Everything here is told how to find out what a command writes.
-/
import WasmBinary.Machine.Script.Arithmetic
import WasmBinary.Machine.Script.Pattern
import WasmBinary.Machine.Script.Process

namespace WasmBinary.Machine.Script

/-! ## Pieces and fields -/

/-- A piece of what a word stands for. -/
inductive Piece
  | text (text : String) (splits active : Bool)
  /-- Nothing, but between quotes, so that there is a field. -/
  | mark
  /-- The border between two fields. -/
  | border

/-- The text of pieces that are not split. -/
def Piece.textOf (pieces : List Piece) : String :=
  String.join <| pieces.map fun
    | Piece.text content _ _ => content
    | _ => ""

/-- The pattern that pieces are. -/
def Piece.patternOf (pieces : List Piece) : List Pattern.Mark :=
  pieces.flatMap fun
    | Piece.text content _ active => Pattern.ofText active content
    | _ => []

/-- A text of which parts can be active in a pattern. -/
abbrev Field := List (String × Bool)

/-- The text of a field. -/
def Field.text (field : Field) : String := String.join (field.map (·.1))

/-- The pattern of a field. -/
def Field.pattern (field : Field) : List Pattern.Mark :=
  field.flatMap fun (text, active) => Pattern.ofText active text

/-- Fields that are complete and one in the making, each with the latest first. -/
structure Fields where
  complete : List Field := []
  current : Field := []

namespace Fields

/-- Completes the field in the making, even if there is none. -/
def close (f : Fields) : Fields := ⟨f.current.reverse :: f.complete, []⟩

/-- Completes the field in the making, if there is one. -/
def rest (f : Fields) : Fields := if f.current.isEmpty then f else f.close

/-- Adds to the field in the making. -/
def add (f : Fields) (text : String) (active : Bool) : Fields :=
  { f with current := (text, active) :: f.current }

/-- Adds characters that were collected from the last to the first. -/
def addRun (f : Fields) (run : List Char) (active : Bool) : Fields :=
  if run.isEmpty then f else f.add (String.ofList run.reverse) active

/-- The character between the arguments where all of them stand without quotes. -/
def joint : Char := Char.ofNat 0

/-- White characters, which separate fields without making empty ones. -/
def isWhite (c : Char) : Bool := c = ' ' || c = '\t' || c = '\n' || c = joint

/-- Adds characters and splits at separators.  Right behind a separator it is known whether it was
    white, because one other separator may still belong to it. -/
def split (separators : List Char) (active : Bool) :
    Fields → (run : List Char) → (behind : Option Bool) → List Char → Fields
  | f, run, _, [] => f.addRun run active
  | f, run, behind, c :: rest =>
      if !separators.contains c then split separators active f (c :: run) none rest
      else
        match behind with
        | some white =>
            if isWhite c then split separators active f [] behind rest
            else if white then split separators active f [] (some false) rest
            else split separators active f.close [] (some false) rest
        | none =>
            if isWhite c && run.isEmpty && f.current.isEmpty then
              split separators active f [] none rest
            else split separators active (f.addRun run active).close [] (some (isWhite c)) rest

/-- Adds a piece. -/
def addPiece (separators : List Char) (f : Fields) : Piece → Fields
  | .text text false active => if text = "" then f else f.add text active
  | .text text true active => f.split separators active [] none text.toList
  | .mark => f.add "" false
  | .border => f.rest

/-- The fields of pieces. -/
def ofPieces (separators : String) (pieces : List Piece) : List Field :=
  (pieces.foldl (addPiece (joint :: separators.toList)) {}).rest.complete.reverse

end Fields

namespace Run

/-! ## Parameters -/

/-- The arguments with the first separator between them. -/
def joinedArguments : Run String := do
  let separator := match (← separators).toList with
    | c :: _ => c.toString
    | [] => ""
  return separator.intercalate (← shell).arguments

/-- The value of a parameter, if it has one. -/
def parameter? (name : String) : Run (Option String) := do
  let s ← shell
  match name with
  | "#" => return some (toString s.arguments.length)
  | "?" => return some (toString s.status)
  | "$" => return some (toString s.process)
  | "!" => return s.lastJob.map toString
  | "-" => return some s.options.letters
  | "0" => return some s.name
  | "@" | "*" => if s.arguments.isEmpty then return none else joinedArguments
  | _ =>
      if name.all Char.isDigit then return s.arguments[name.toNat?.getD 0 - 1]?
      else valueOf? name

/-- The value of a parameter that has to have one, if the options say so. -/
def insistOn (name : String) : Run String := do
  match ← parameter? name with
  | some value => return value
  | none =>
      if (← shell).options.insists && name ≠ "@" && name ≠ "*" then
        abort (name ++ ": parameter not set")
      else return ""

/-! ## Arithmetic -/

/-- The number that a variable holds. -/
def numberOf (name : String) : Run Int := do
  let text := (← valueOf? name).getD ""
  match Arith.ofText? text with
  | some value => return value
  | none => abort ("Illegal number: " ++ text)

/-- The value of an expression. -/
def evaluate (text : String) : Run Int := do
  let wrong {α : Type} (what : String) : Run α :=
    abort ("arithmetic expression: " ++ what ++ ": \"" ++ text ++ "\"")
  match Arith.parse text with
  | .error what => wrong what
  | .ok a =>
      a.value numberOf (fun name value => assign name (toString value)) fun
        | .byZero => wrong "division by zero"
        | .tooLarge => throw (.signalled 8)

/-! ## Words -/

/-- The pieces of arguments.  Between quotes each is a field; without, they are split. -/
def argumentPieces (quoted : Bool) (arguments : List String) : List Piece :=
  if quoted then
    let pieces := arguments.map fun a => [Piece.mark, .text a false false]
    (pieces.intersperse [.border]).flatten
  else [.text (Fields.joint.toString.intercalate arguments) true true]

/-- The piece of a value. -/
def pieceOf (value : String) (quoted : Bool) : List Piece := [.text value (!quoted) (!quoted)]

/-- The pieces of a parameter. -/
def parameterPieces (full : Bool) (name : String) (quoted : Bool) : Run (List Piece) := do
  if full && (name = "@" || (name = "*" && !quoted)) then
    return argumentPieces quoted (← shell).arguments
  else return pieceOf (← insistOn name) quoted

/-- The pieces of a parameter from which something is cut off.  Of all arguments, it is cut off the
    first or the last one. -/
def cutPieces (full : Bool) (name : String) (quoted : Bool) (cut : List Char → List Char) :
    Run (List Piece) := do
  if full && (name = "@" || (name = "*" && !quoted)) then
    let all := Fields.joint.toString.intercalate (← shell).arguments
    let texts := (String.ofList (cut all.toList)).splitToList (· = Fields.joint)
    return argumentPieces quoted texts
  else return pieceOf (String.ofList (cut (← insistOn name).toList)) quoted

/-! ## Homes -/

/-- The home directory of a user, or of whoever runs the shell. -/
def homeOf? (name : String) : Run (Option String) := do
  if name = "" then valueOf? "HOME"
  else
    let s ← get
    let text := ((s.world.files.read 0 "/etc/passwd").map ByteText.ofBytes).toOption.getD ""
    return (text.splitOn "\n").findSome? fun line =>
      match line.splitOn ":" with
      | [user, _, _, _, _, home, _] => if user = name then some home else none
      | _ => none

/-- Where the tildes of a word are replaced by home directories. -/
inductive Homes
  | nowhere
  | front
  /-- Also behind colons, as in what is assigned to a variable. -/
  | paths
deriving DecidableEq

/-- The pieces of an unquoted text.  The flags tell whether nothing follows the text, and whether a
    tilde at the front can stand for a home; then it is told whether one could behind the text. -/
def textPieces (splits : Bool) (homes : Homes) (last : Bool) :
    Nat → (fresh : Bool) → List Char → Run (List Piece × Bool)
  | 0, fresh, _ | _, fresh, [] => return ([], fresh)
  | n + 1, fresh, c :: cs => do
      let plain (cs : List Char) : Piece := .text (String.ofList cs) splits true
      let onward (pieces : List Piece) (fresh : Bool) (cs : List Char) :
          Run (List Piece × Bool) := do
        let (others, fresh) ← textPieces splits homes last n fresh cs
        return (pieces ++ others, fresh)
      if homes = .nowhere then return ([plain (c :: cs)], false)
      else if fresh && c = '~' then
        let name := cs.takeWhile fun d => d != '/' && !(homes = .paths && d = ':')
        let behind := cs.drop name.length
        let home ← if behind.isEmpty && !last then pure none else homeOf? (String.ofList name)
        match home with
        | some "" => onward [] false behind
        | some home => onward [.mark, .text home false false] false behind
        | none => onward [plain (c :: name)] false behind
      else if homes = .paths && c = ':' then onward [plain [c]] true cs
      else
        let front := cs.takeWhile fun d => !(homes = .paths && d = ':')
        onward [plain (c :: front)] false (cs.drop front.length)

mutual

/-- The pieces of a part.  A full expansion makes fields, so that the arguments stay apart. -/
def partPieces (output : Command → Run String) (full splits : Bool) : Part → Run (List Piece)
  | .text text quoted =>
      return if quoted then [.mark, .text text false false] else [.text text splits true]
  | .parameter name quoted => parameterPieces full name quoted
  | .length name quoted => return pieceOf (toString (← insistOn name).length) quoted
  | .changed name change colon word quoted => do
      let value ← parameter? name
      let present := value.isSome && (!colon || value ≠ some "")
      match change with
      | .orElse =>
          if present then parameterPieces full name quoted
          else wordPieces output full (!quoted) .front true word
      | .assign =>
          if present then parameterPieces full name quoted
          else
            let text := Piece.textOf (← wordPieces output false false .front true word)
            unless Reader.isName name do abort (name ++ ": bad variable name")
            assign name text
            return pieceOf text quoted
      | .require =>
          if present then parameterPieces full name quoted
          else if word.isEmpty then
            abort (name ++ ": parameter not set" ++ if colon then " or null" else "")
          else
            abort (name ++ ": " ++ Piece.textOf (← wordPieces output false false .front true word))
      | .instead =>
          if present then wordPieces output full (!quoted) .front true word else return []
      | .cutFront longest => do
          let pattern := Piece.patternOf (← wordPieces output false false .front true word)
          cutPieces full name quoted fun text => Pattern.cutFront longest pattern text
      | .cutBack longest => do
          let pattern := Piece.patternOf (← wordPieces output false false .front true word)
          cutPieces full name quoted fun text => Pattern.cutBack longest pattern text
  | .malformed => abort "Bad substitution"
  | .output command quoted => return pieceOf (← output command) quoted
  | .arithmetic expression quoted => do
      let text := Piece.textOf (← wordPieces output false false .nowhere false expression)
      return pieceOf (toString (← evaluate text)) quoted

/-- The pieces of a word. -/
def wordPieces (output : Command → Run String) (full splits : Bool) (homes : Homes) :
    (fresh : Bool) → List Part → Run (List Piece)
  | _, [] => return []
  | fresh, .text text false :: rest => do
      let (pieces, fresh) ← textPieces splits homes rest.isEmpty (text.length + 1) fresh text.toList
      return pieces ++ (← wordPieces output full splits homes fresh rest)
  | _, part :: rest => do
      let pieces ← partPieces output full splits part
      return pieces ++ (← wordPieces output full splits homes false rest)

end

/-- The text of a word that is not split. -/
def textOfWord (output : Command → Run String) (word : Word) (homes : Homes := .front) :
    Run String :=
  return Piece.textOf (← wordPieces output false false homes true word)

/-- The pattern that a word is. -/
def patternOfWord (output : Command → Run String) (word : Word) : Run (List Pattern.Mark) :=
  return Piece.patternOf (← wordPieces output false false .front true word)

/-! ## Names of files -/

/-- The names in a directory that fit a pattern.  A dot in front is only found by a dot. -/
def namesFitting (files : Files) (start : Nat) (path : String) (pattern : List Pattern.Mark) :
    List String :=
  match files.findNode start (if path = "" then "." else path) with
  | .ok node =>
      if !node.isDirectory || !node.allows .read then []
      else
        ("." :: ".." :: node.names).filter fun name =>
          let hidden := name.startsWith "."
          (!hidden || (pattern.head?.map (·.1)) = some '.') && Pattern.fits pattern name.toList
  | .error _ => []

/-- The paths that fit patterns for their names, behind what is known of them. -/
def pathsFitting (files : Files) (start : Nat) : List (List Pattern.Mark) → String → List String
  | [], path => [path]
  | pattern :: rest, path =>
      let names := if Pattern.isWild pattern then namesFitting files start path pattern
        else [String.ofList (pattern.map (·.1))]
      if rest.isEmpty then
        names.map (path ++ ·) |>.filter fun path => (files.find start path false).isOk
      else names.flatMap fun name => pathsFitting files start rest (path ++ name ++ "/")

/-- A field as it is, or the names of the files that fit it. -/
def filesOf (field : Field) : Run (List String) := do
  let pattern := field.pattern
  if !Pattern.isWild pattern || (← shell).options.plain then return [field.text]
  else
    let found := pathsFitting (← files) (← shell).directory
      (pattern.splitOnP fun mark => mark.1 = '/') ""
    return if found.isEmpty then [field.text] else found.mergeSort fun a b => !(b < a)

/-- The fields of a word. -/
def fieldsOfWord (output : Command → Run String) (word : Word) : Run (List String) := do
  let pieces ← wordPieces output true false .front true word
  let fields := Fields.ofPieces (← separators) pieces
  return (← fields.mapM filesOf).flatten

end Run

end WasmBinary.Machine.Script
