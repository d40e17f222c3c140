/-
  The tool that runs programs on records.

  1. **Programs** are read from files that options name, or are the first operand.

  2. **Words** — options separate fields and give variables their values.  The operands are files
     and further assignments.

  3. **Ends** — streams are closed when the program has ended, those of commands first.
-/
import WasmBinary.Machine.Script.Tool.Records.Running

namespace WasmBinary.Machine.Script.Tool

open Run

namespace Records

/-- How the tool is used, in so many words. -/
def usageLines : List String :=
  [ "Usage: mawk [Options] [Program] [file ...]",
    "",
    "Program:",
    "    The -f option value is the name of a file containing program text.",
    "    If no -f option is given, a \"--\" ends option processing; the following",
    "    parameters are the program text.",
    "",
    "Options:",
    "    -f program-file  Program  text is read from file instead of from the",
    "                     command-line.  Multiple -f options are accepted.",
    "    -F value         sets the field separator, FS, to value.",
    "    -v var=value     assigns value to program variable var.",
    "    --               unambiguous end of options.",
    "",
    "    Implementation-specific options are prefixed with \"-W\".  They can be",
    "    abbreviated:",
    "",
    "    -W version       show version information and exit.",
    "    -W compat        pre-POSIX 2001.",
    "    -W dump          show assembler-like listing of program and exit.",
    "    -W help          show this message and exit.",
    "    -W interactive   set unbuffered output, line-buffered input.",
    "    -W exec file     use file as program as well as last option.",
    "    -W posix         stricter POSIX checking.",
    "    -W random=number set initial random seed.",
    "    -W sprintf=number adjust size of sprintf buffer.",
    "    -W usage         show this message and exit." ]

/-- The options that have names. -/
def optionNames : List String :=
  [ "version", "compat", "dump", "help", "interactive", "exec", "posix", "random", "sprintf",
    "usage", "re-interval" ]

/-- What the words in front of the operands come to. -/
structure Setup where
  files : List String := []
  assignments : List (String × String) := []
  words : List String := []
  /-- Whether the lines on the usage, or the version, are asked for. -/
  asked : Option (List String) := none

/-- Refuses something, and stops. -/
def refuse {α : Type} (self text : String) : Run α := do
  fail self text 2
  throw .failed

/-- What an option with a name asks for. -/
def Setup.withNamed (s : Setup) (self written : String) (isLong : Bool) : Run Setup := do
  let name := String.ofList (written.toList.takeWhile (· ≠ '='))
  match optionNames.find? fun other => name ≠ "" && other.startsWith name with
  | some "version" => return { s with asked := some ["mawk 1.3.4 20240123"] }
  | some "help" | some "usage" => return { s with asked := some usageLines }
  | some _ => return s
  | none =>
      if isLong then refuse self ("not an option: --" ++ written)
      else
        say self ("vacuous option: -W \"" ++ written ++ "\"")
        return s

/-- What an option with a letter asks for. -/
def Setup.withOption (s : Setup) (self : String) (letter : Char) (value : String) : Run Setup := do
  match letter with
  | 'f' => return { s with files := s.files ++ [value] }
  | 'F' => return { s with assignments := s.assignments ++ [("FS", value)] }
  | 'v' =>
      match assignment? value with
      | some entry => return { s with assignments := s.assignments ++ [entry] }
      | none => refuse self ("improper assignment: -v " ++ value)
  | _ => s.withNamed self value false

/-- Takes the options in front of the words. -/
def Setup.ofWords (self : String) (s : Setup) : List String → Run Setup
  | [] => return s
  | "--" :: rest => return { s with words := rest }
  | word :: rest =>
      match word.toList with
      | '-' :: '-' :: name => do
          let s ← s.withNamed self (String.ofList name) true
          if s.asked.isSome then return s else s.ofWords self rest
      | '-' :: letter :: value =>
          if !"fFvW".toList.contains letter then refuse self ("not an option: " ++ word)
          else
            match value, rest with
            | [], [] => refuse self ("option -" ++ letter.toString ++ " lacks argument")
            | [], value :: rest => do
                let s ← s.withOption self letter value
                if s.asked.isSome then return s else s.ofWords self rest
            | value, rest => do
                let s ← s.withOption self letter (String.ofList value)
                if s.asked.isSome then return s else s.ofWords self rest
      | _ => return { s with words := word :: rest }

/-- The text of a program that is in files. -/
def textOfFiles (self : String) : List String → Run String
  | [] => return ""
  | path :: rest => do
      match ← readOperand path .whole with
      | .ok text =>
          let others ← textOfFiles self rest
          return if rest.isEmpty then text else text ++ "\n" ++ others
      | .error .isADirectory =>
          refuse self ("read error (" ++ FileFault.isADirectory.words ++ ")")
      | .error fault => refuse self ("cannot open \"" ++ path ++ "\" (" ++ fault.words ++ ")")

/-- The variables that are there from the beginning. -/
def firstGlobals (assignments : List (String × String)) : Std.HashMap String Slot :=
  let fixed : List (String × Value) :=
    [ ("FS", .text " "), ("OFS", .text " "), ("ORS", .text "\n"), ("RS", .text "\n"),
      ("SUBSEP", .text "\x1c"), ("CONVFMT", .text "%.6g"), ("OFMT", .text "%.6g"),
      ("NR", .number 0.0), ("FNR", .number 0.0), ("FILENAME", .text "") ]
  let given := assignments.map fun (name, value) => (name, Value.seen (Token.unescape value))
  Std.HashMap.ofList ([("ARGV", Slot.table 0), ("ENVIRON", Slot.table 1)] ++
    (fixed ++ given).map fun (name, v) => (name, Slot.value v))

/-- A program with its operands, before it runs. -/
def executionOf (self : String) (p : Program) (assignments environment : List (String × String))
    (operands : List String) : Execution :=
  let words := (self :: operands).zipIdx.foldl (fun (t : Table) (word, i) =>
    t.put (.whole i) (.seen word)) {}
  let bindings := environment.foldl (fun (t : Table) (name, value) =>
    t.put (.text name) (.seen value)) {}
  { self
    functions := Std.HashMap.ofList (p.functions.map fun f => (f.name, f))
    arrays := Std.HashMap.ofList p.arrays
    globals := (firstGlobals assignments).insert "ARGC" (.value (.ofNat (operands.length + 1)))
    tables := #[words, bindings] }

/-- Runs a program to its end, and closes its streams. -/
def Program.perform (start : Starter) (p : Program) (m : Execution) : Run Unit := do
  let work : Work Unit := do
    match ← leapOf (p.run start) with
    | _ => closeAll start
  let (_, m) ← work m
  if let some fault := (← get).world.unwritten then
    modifyWorld fun w => { w with unwritten := none }
    fail m.self ("close failed on file \"/dev/stdout\" (" ++ fault.words ++ ")") 2
  else finish m.status

end Records

/-- Runs a program on records. -/
def processRecords (start : Starter) : Tool := fun path arguments => do
  let self := baseName path
  let s ← ({} : Records.Setup).ofWords self arguments
  if let some lines := s.asked then
    emit (String.join (lines.map (·.push '\n')))
    return ← finish 0
  let (text, operands) ← match s.files, s.words with
    | [], [] =>
        emit (String.join (Records.usageLines.map (·.push '\n')))
        finish 0
        throw .failed
    | [], text :: operands => pure (text, operands)
    | files, operands => do pure (← Records.textOfFiles self files, operands)
  let place := self ++ ": " ++ (s.files.getLast?.map fun path => path ++ ": ").getD ""
  let numbered (line : Nat) (text : String) : String :=
    place ++ "line " ++ toString line ++ ": " ++ text
  let complain (texts : List String) : Run Unit := do
    for text in texts do tell (text ++ "\n")
    finish 2
  match Records.Program.ofText text with
  | .error faults =>
      complain (faults.map fun fault =>
        match fault.line with
        | some line => numbered line fault.text
        | none => self ++ ": " ++ fault.text)
  | .ok p =>
      let exported := (← shell).bindings.filter fun entry => entry.2.exported
      let environment := exported.reverse.filterMap fun (name, v) =>
        v.value.map fun value => (name, value)
      p.perform start (Records.executionOf self p s.assignments environment operands)

end WasmBinary.Machine.Script.Tool
