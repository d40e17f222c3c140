/-
  Builtins for variables, arguments and options of the shell.
-/
import WasmBinary.Machine.Script.Arithmetic
import WasmBinary.Machine.Script.Numeral
import WasmBinary.Machine.Script.Process

namespace WasmBinary.Machine.Script.Builtin

open Run

/-! ## Arguments of builtins -/

/-- The options of one word, with the values of those that take one, and the words behind them. -/
def cluster (allowed valued : List Char) :
    List Char → List String → Run (List (Char × String) × List String)
  | [], rest => return ([], rest)
  | c :: left, rest => do
      if valued.contains c then
        match left, rest with
        | [], [] => abort ("No arg for -" ++ c.toString ++ " option")
        | [], value :: rest => return ([(c, value)], rest)
        | _, _ => return ([(c, String.ofList left)], rest)
      else if allowed.contains c then
        let (more, rest) ← cluster allowed valued left rest
        return ((c, "") :: more, rest)
      else abort ("Illegal option -" ++ c.toString)

/-- The options in front of the arguments, with the values of those that take one, and the arguments
    behind them.  The number bounds how many words have options. -/
def clusters (allowed valued : List Char) :
    Nat → List String → Run (List (Char × String) × List String)
  | n + 1, word :: rest => do
      if word = "--" then return ([], rest)
      else if word.startsWith "-" && word ≠ "-" then
        let (chosen, rest) ← cluster allowed valued (word.toList.drop 1) rest
        let (more, rest) ← clusters allowed valued n rest
        return (chosen ++ more, rest)
      else return ([], word :: rest)
  | _, words => return ([], words)

/-- The options in front of the arguments, as letters, and the arguments behind them. -/
def options (allowed : List Char) (arguments : List String) : Run (List Char × List String) := do
  let (chosen, rest) ← clusters allowed [] arguments.length arguments
  return (chosen.map (·.1), rest)

/-- The count that an argument is. -/
def count (text : String) : Run Nat := do
  match Numeral.count? text with
  | some n => return n
  | none => abort ("Illegal number: " ++ text)

/-- The pieces of a text between quotes: what has no single quote between single quotes, and single
    quotes between double ones.  The number bounds how many pieces there are. -/
def quotedPieces : Nat → List Char → String
  | 0, _ => ""
  | n + 1, cs =>
      let plain := cs.takeWhile (· ≠ '\'')
      let rest := cs.drop plain.length
      let quotes := rest.takeWhile (· = '\'')
      let behind := rest.drop quotes.length
      "'" ++ String.ofList plain ++ "'" ++
        (if quotes.isEmpty then "" else "\"" ++ String.ofList quotes ++ "\"") ++
        (if behind.isEmpty then "" else quotedPieces n behind)

/-- A text between quotes, so that a shell would read it as it is. -/
def quoted (text : String) : String := quotedPieces (text.length + 1) text.toList

/-! ## Marks on variables -/

/-- The name and the value of an argument that may be an assignment. -/
def assignmentOf (word : String) : String × Option String :=
  let name := word.toList.takeWhile (· ≠ '=')
  (String.ofList name,
    if name.length < word.length then some (String.ofList (word.toList.drop (name.length + 1)))
    else none)

/-- Complains about what is no name. -/
def insistName (name : String) : Run Unit := do
  unless Reader.isName name do abort (name ++ ": bad variable name")

/-- Shows variables with their values, in order. -/
def showVariables (caption : String) (chosen : Variable → Bool) : Run Unit := do
  let entries := (← shell).bindings.filter fun entry => chosen entry.2
  for (name, v) in entries.mergeSort fun a b => !(b.1 < a.1) do
    match v.value with
    | some value => emit (caption ++ name ++ "=" ++ quoted value ++ "\n")
    | none => unless caption = "" do emit (caption ++ name ++ "\n")

/-- Marks variables, and gives them values on the way. -/
def mark (caption : String) (chosen : Variable → Bool) (change : Variable → Variable)
    (arguments : List String) : Run Unit := do
  let (letters, words) ← options [ 'p' ] arguments
  if words.isEmpty || !letters.isEmpty then showVariables (caption ++ " ") chosen
  else
    for word in words do
      let (name, value) := assignmentOf word
      insistName name
      if let some value := value then assign name value
      putVariable name (change ((← entryOf? name).getD {}))
  finish 0

/-- Passes variables on to programs. -/
def exportNames : List String → Run Unit :=
  mark "export" (·.exported) fun v => { v with exported := true }

/-- Keeps variables as they are. -/
def fixNames : List String → Run Unit :=
  mark "readonly" (·.fixed) fun v => { v with fixed := true }

/-- Takes a variable away, if it may be. -/
def clear (name : String) : Run Unit := do
  if ((← entryOf? name).getD {}).fixed then abort (name ++ ": is read only")
  if name = "OPTIND" then abort "Illegal number: "
  dropVariable name

/-- Takes variables or functions away. -/
def unset (arguments : List String) : Run Unit := do
  let (letters, names) ← options [ 'f', 'v' ] arguments
  if letters.contains 'f' then
    modifyShell fun s =>
      { s with functions := s.functions.filter fun entry => !names.contains entry.1 }
  else
    for name in names do
      insistName name
      clear name
  finish 0

/-- Keeps what variables were until the function ends. -/
def localNames (arguments : List String) : Run Unit := do
  match (← shell).frames with
  | [] => abort "not in a function"
  | frame :: frames =>
      let wholes := arguments.filter fun word => word ≠ "-"
      let names := wholes.map fun word => (assignmentOf word).1
      let saved ← names.mapM fun name => do
        insistName name
        return (name, ← entryOf? name)
      let fresh := saved.filter fun entry => (frame.bindings.lookup entry.1).isNone
      let now := (← shell).options
      let options := if arguments.contains "-" then some (frame.options.getD now)
        else frame.options
      modifyShell fun s =>
        { s with frames := { bindings := frame.bindings ++ fresh, options } :: frames }
      for word in wholes do
        if let (name, some value) := assignmentOf word then assign name value
      finish 0

/-! ## Options and arguments of the shell -/

/-- Switches an option.  There is no terminal whose jobs could be controlled. -/
def switchNamed (on : Bool) (name : String) : Run Unit := do
  if on && name = "monitor" then complain "can't access tty; job control turned off"
  else modifyShell fun s => { s with options := s.options.switch name on }

/-- Switches an option that has to be one. -/
def switchKnown (on : Bool) (letter : Char) : Run Unit := do
  match Options.nameOf? letter with
  | some name => switchNamed on name
  | none => abort ("Illegal option -" ++ letter.toString)

/-- Shows which options are on, or how to switch them so. -/
def showOptions (asCommands : Bool) : Run Unit := do
  let o := (← shell).options
  unless asCommands do emit "Current option settings\n"
  for (name, _) in Options.table do
    let on := o.has name
    emit (if asCommands then "set " ++ (if on then "-o " else "+o ") ++ name ++ "\n"
      else String.ofList (name.toList.rightpad 16 ' ') ++ (if on then "on\n" else "off\n"))

/-- Switches the options of a cluster, and takes the names of some from the words behind it. -/
def switchCluster (on : Bool) : List Char → List String → Run (List String)
  | [], words => return words
  | 'o' :: letters, words => do
      match words with
      | [] =>
          showOptions !on
          switchCluster on letters []
      | name :: rest =>
          unless (Options.table.lookup name).isSome do abort ("Illegal option -o " ++ name)
          switchNamed on name
          switchCluster on letters rest
  | letter :: letters, words => do
      switchKnown on letter
      switchCluster on letters words

/-- Switches the options in front of words: the words behind them, if they are to be the arguments
    from now on. -/
def switches : Nat → List String → Run (Option (List String))
  | 0, _ | _, [] => return none
  | n + 1, word :: rest => do
      match word.toList with
      | ['-'] =>
          modifyShell fun s => { s with options := { s.options with traces := false } }
          return if rest.isEmpty then none else some rest
      | ['-', '-'] => return some rest
      | '-' :: letters => switches n (← switchCluster true letters rest)
      | '+' :: letters => switches n (← switchCluster false letters rest)
      | _ => return some (word :: rest)

/-- Switches options and replaces the arguments. -/
def set (arguments : List String) : Run Unit := do
  if arguments.isEmpty then showVariables "" fun _ => true
  else if let some arguments ← switches (arguments.length + 1) arguments then
    modifyShell fun s => { s.atOption 1 with arguments }
  finish 0

/-- Drops arguments at the front. -/
def shift (arguments : List String) : Run Unit := do
  let n ← match arguments with
    | [] => pure 1
    | word :: _ => count word
  let s ← shell
  if s.arguments.length < n then abort "can't shift that many"
  modifyShell fun s => { s.atOption 1 with arguments := s.arguments.drop n }
  finish 0

/-! ## Reading lines -/

/-- A character of a line, and whether a backslash protected it. -/
abbrev Mark := Char × Bool

/-- The characters of a line as far as it goes, and whether the next line belongs to it. -/
def marksOf (verbatim : Bool) : List Char → List Mark × Bool
  | [] => ([], false)
  | '\\' :: rest =>
      if verbatim then
        let (marks, joined) := marksOf verbatim rest
        (('\\', false) :: marks, joined)
      else
        match rest with
        | [] => ([], false)
        | '\n' :: _ => ([], true)
        | c :: rest =>
            let (marks, joined) := marksOf verbatim rest
            ((c, true) :: marks, joined)
  | c :: rest =>
      if c = '\n' then ([], false)
      else
        let (marks, joined) := marksOf verbatim rest
        (if c.toNat = 0 then marks else (c, false) :: marks, joined)

/-- Reads a line, with the lines that are joined to it: its characters, and whether it has come to
    its end. -/
def readMarks (verbatim : Bool) : Nat → Run (List Mark × Bool)
  | 0 => return ([], false)
  | n + 1 => do
      match ← readStream 0 (.lines 1) with
      | .error _ => return ([], false)
      | .ok data =>
          let text := ByteText.ofBytes data
          let (marks, joined) := marksOf verbatim text.toList
          if joined then
            let (more, complete) ← readMarks verbatim n
            return (marks ++ more, complete)
          else return (marks, text.endsWith "\n")

/-- The text of marked characters. -/
def textOf (marks : List Mark) : String := String.ofList (marks.map (·.1))

/-- Splits a line for so many variables.  The last one gets all that is left, without white
    separators at its end, and without the separator behind it if it is a single field. -/
def fieldsFor (separators : List Char) : Nat → List Mark → List String
  | 0, _ => []
  | n + 1, marks =>
      let separates (m : Mark) : Bool := !m.2 && separators.contains m.1
      let white (m : Mark) : Bool := separates m && [ ' ', '\t', '\n' ].contains m.1
      let bare (marks : List Mark) : List Mark := (marks.reverse.dropWhile white).reverse
      let marks := marks.dropWhile white
      if n = 0 then
        let kept := bare marks
        let single := bare kept.dropLast
        let closed := (kept.getLast?.map separates).getD false
        [textOf (if closed && !single.any separates then single else kept)]
      else
        let field := marks.takeWhile fun m => !separates m
        let rest := (marks.drop field.length).dropWhile white
        let rest := match rest with
          | m :: more => if separates m then more else rest
          | [] => []
        textOf field :: fieldsFor separators n rest

/-- Reads a line into variables. -/
def read (arguments : List String) : Run Unit := do
  let (chosen, names) ← clusters [ 'r' ] [ 'p' ] arguments.length arguments
  if names.isEmpty then abort "arg count"
  let (marks, complete) ← readMarks (chosen.any fun option => option.1 = 'r') 4096
  let fields := fieldsFor (← separators).toList names.length marks
  for (name, field) in names.zip fields do
    insistName name
    assign name field
  finishWith complete

/-! ## Options of scripts -/

/-- The letter in the word that is being looked at: what follows it, and how many words are done
    with.  Nothing is left where the words are no options any more. -/
def currentWord (words : List String) (index position : Nat) : Option (List Char) × Nat :=
  let left := ((words[index - 2]?.getD "").toList.drop position)
  if 2 ≤ index && 0 < position && !left.isEmpty then (some left, index)
  else
    match (words[index - 1]?.getD "").toList with
    | '-' :: c :: rest =>
        if c = '-' && rest.isEmpty then (none, index + 1) else (some (c :: rest), index + 1)
    | _ => (none, index)

/-- Whether options know a letter, and whether it takes an argument. -/
def letterOf? (letter : Char) : List Char → Option Bool
  | [] => none
  | c :: ':' :: rest => if c = letter then some true else letterOf? letter rest
  | c :: rest => if c = letter then some false else letterOf? letter rest

/-- Stores how many words are done with, and the option that was found. -/
def storeOption (name option : String) (index position : Nat) : Run Unit := do
  let entry := (← entryOf? "OPTIND").getD {}
  if entry.fixed then abort "OPTIND: is read only"
  putVariable "OPTIND" { entry with value := some (toString index) }
  insistName name
  assign name option
  modifyShell fun s => { s with optionIndex := index, optionPosition := position }

/-- Takes the next option of a script apart.  What has been done with is forgotten if that fails. -/
def nextOption (arguments : List String) : Run Unit := do
  match arguments with
  | letters :: name :: rest =>
      let s ← shell
      let words := if rest.isEmpty then s.arguments else rest
      let stale := s.optionIndex = 0 || words.length + 1 < s.optionIndex
      let (start, position) := if stale then (1, 0) else (s.optionIndex, s.optionPosition)
      modifyShell (Shell.atOption · 0)
      let silent := letters.startsWith ":"
      let conclude (index position : Nat) (option : String) (success : Bool) : Run Unit := do
        storeOption name option index position
        finishWith success
      match currentWord words start position with
      | (none, index) | (some [], index) => conclude index 0 "?" false
      | (some (letter :: left), index) =>
          let word := (words[index - 2]?.getD "")
          let position := if left.isEmpty then 0 else word.length - left.length
          match letterOf? letter letters.toList with
          | none =>
              if silent then assign "OPTARG" letter.toString
              else
                tell ("Illegal option -" ++ letter.toString ++ "\n")
                clear "OPTARG"
              conclude index position "?" true
          | some false =>
              assign "OPTARG" ""
              conclude index position letter.toString true
          | some true =>
              if !left.isEmpty then
                assign "OPTARG" (String.ofList left)
                conclude index 0 letter.toString true
              else
                match words[index - 1]? with
                | some value =>
                    assign "OPTARG" value
                    conclude (index + 1) 0 letter.toString true
                | none =>
                    if silent then
                      assign "OPTARG" letter.toString
                      conclude index 0 ":" true
                    else
                      tell ("No arg for -" ++ letter.toString ++ " option\n")
                      clear "OPTARG"
                      conclude index 0 "?" true
  | _ => abort "Usage: getopts optstring var [arg...]"

end WasmBinary.Machine.Script.Builtin
