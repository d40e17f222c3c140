/-
  The stream editor.

  1. **Scripts** are the values of options, or the first operand.  Options count for what comes
     behind them.

  2. **Operands** are edited as one stream, each for itself, or each in its place.
-/
import WasmBinary.Machine.Script.Tool.Edit.Reading
import WasmBinary.Machine.Script.Tool.Edit.Running

namespace WasmBinary.Machine.Script.Tool

open Run

namespace Edit

/-- How the editor is used, in so many words. -/
def usageText (self : String) : String :=
  "Usage: " ++ self ++ " [OPTION]... \x7bscript-only-if-no-other-script\x7d [input-file]...\n\n" ++
    String.join (lines.map (·.push '\n'))
where
  /-- The lines behind the first one. -/
  lines : List String :=
    [ "  -n, --quiet, --silent",
      "                 suppress automatic printing of pattern space",
      "      --debug",
      "                 annotate program execution",
      "  -e script, --expression=script",
      "                 add the script to the commands to be executed",
      "  -f script-file, --file=script-file",
      "                 add the contents of script-file to the commands to be executed",
      "  --follow-symlinks",
      "                 follow symlinks when processing in place",
      "  -i[SUFFIX], --in-place[=SUFFIX]",
      "                 edit files in place (makes backup if SUFFIX supplied)",
      "  -l N, --line-length=N",
      "                 specify the desired line-wrap length for the " ++ named "l" ++ " command",
      "  --posix",
      "                 disable all GNU extensions.",
      "  -E, -r, --regexp-extended",
      "                 use extended regular expressions in the script",
      "                 (for portability use POSIX -E).",
      "  -s, --separate",
      "                 consider files as separate rather than as a single,",
      "                 continuous long stream.",
      "      --sandbox",
      "                 operate in sandbox mode (disable e/r/w commands).",
      "  -u, --unbuffered",
      "                 load minimal amounts of data from the input files and flush",
      "                 the output buffers more often",
      "  -z, --null-data",
      "                 separate lines by NUL characters",
      "      --help     display this help and exit",
      "      --version  output version information and exit",
      "",
      "If no -e, --expression, -f, or --file option is given, then the first",
      "non-option argument is taken as the sed script to interpret.  All",
      "remaining arguments are names of input files; if no input files are",
      "specified, then the standard input is read.",
      "" ]

/-- What the options come to. -/
structure Setup where
  settings : Settings
  source : Source := {}
  /-- Whether there is a script. -/
  scripted : Bool := false
  /-- How many texts have been given. -/
  texts : Nat := 0

/-- Says what is wrong with a script, and stops. -/
def Mistake.report {α : Type} (m : Mistake) (self : String) : Run α := do
  fail self m.text m.status
  throw .failed

/-- Opens the files that a script writes to, as far as it has been read. -/
def Setup.opensTargets (s : Setup) : Run Unit := do
  let _ ← (openTargets s.settings s.source.targets).run { paths := [] }

/-- Reads a part of the script. -/
def Setup.reads (s : Setup) (origin : Origin) (text : String) : Run Setup := do
  match part.run { s.source with rest := text.toList, origin, taken := 0, line := 1 } with
  | .ok _ source => return { s with source, scripted := true }
  | .error mistake source =>
      let s := { s with source }
      s.opensTargets
      mistake.report s.settings.self

/-- Reads a text as a part of the script. -/
def Setup.readsText (s : Setup) (text : String) : Run Setup := do
  let s := { s with texts := s.texts + 1 }
  s.reads (.expression s.texts) text

/-- Does what an option asks for. -/
def Setup.step (s : Setup) (option : Given) : Run Setup := do
  let manner := s.source.manner
  let mannered (manner : Manner) : Run Setup := return { s with source := { s.source with manner } }
  let set (settings : Settings) : Run Setup := return { s with settings }
  let t := s.settings
  match option.key with
  | "n" => set { t with quiet := true }
  | "E" | "r" => mannered { manner with extended := true }
  | "posix" =>
      let source := { s.source with manner := { manner with strict := true } }
      return { s with settings := { t with strict := true }, source }
  | "sandbox" => mannered { manner with sandboxed := true }
  | "s" => set { t with separate := true }
  | "i" => set { t with separate := true, inPlace := some option.value }
  | "follow-symlinks" => set { t with followsLinks := true }
  | "u" => set { t with unbuffered := true }
  | "z" => set { t with ending := '\x00' }
  | "l" =>
      let digits := option.value.toList.takeWhile Char.isDigit
      set { t with width := Nat.ofDigitChars 10 digits 0 }
  | "e" => s.readsText option.value
  | "f" =>
      match ← readOperand option.value .whole with
      | .ok text => s.reads (.file option.value) text
      | .error .isADirectory => s.reads (.file option.value) ""
      | .error fault =>
          s.opensTargets
          ({ text := "couldn't open file " ++ option.value ++ ": " ++ fault.words, status := 4 }
            : Mistake).report t.self
  | "help" =>
      emit (usageText t.self)
      finish 0
      throw .failed
  | "version" =>
      emit "sed (GNU sed) 4.9\n"
      finish 0
      throw .failed
  | _ => return s

end Edit

/-- Edits streams and files. -/
def edit (start : Starter) : Tool := fun self arguments => do
  let choices :=
    "b,binary E,regexp-extended --debug e,expression= f,file= i,in-place=? l,line-length= " ++
    "z,null-data,zero-terminated n,quiet --posix n,silent --sandbox s,separate u,unbuffered " ++
    "--version --help --follow-symlinks r"
  let u := usageFor choices arguments
  let misused : Run Unit := do
    tell (Edit.usageText self)
    finish 1
  let s ← u.options.foldlM Edit.Setup.step ({ settings := { self } } : Edit.Setup)
  if let some text := u.mistake then
    say self text
    return ← misused
  let (s, operands) ← if s.scripted then pure (s, u.operands) else
    match u.operands with
    | [] => pure (s, [])
    | text :: operands => pure (← s.readsText text, operands)
  if !s.scripted then return ← misused
  match s.source.script with
  | .error mistake =>
      s.opensTargets
      mistake.report self
  | .ok script =>
      if s.settings.inPlace.isSome && operands.isEmpty then return ← fail self "no input files" 4
      let t :=
        { s.settings with
          quiet := s.settings.quiet || s.source.quiet
          place := s.source.place 0 }
      let editor : Edit.Editor Unit := do
        Edit.openTargets t s.source.targets
        Edit.edit t start script
      let _ ← editor.run { paths := orInput operands }

end WasmBinary.Machine.Script.Tool
