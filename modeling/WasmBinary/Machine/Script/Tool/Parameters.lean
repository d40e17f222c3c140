/-
  Taking the parameters of scripts apart.

  1. **Descriptions** say which letters and long names are options, and which of them have values.

  2. **What comes of it** is a line of words: the options one by one, two hyphens, and the operands.
     Values and operands are quoted, so that a shell reads them as they are.

  3. **Mistakes** are told, and leave the other parameters as they are.
-/
import WasmBinary.Machine.Script.Tool.Basic

namespace WasmBinary.Machine.Script.Tool

open Run

namespace Parameters

/-- How parameters are taken apart. -/
structure Settings where
  letters : Option String := none
  names : List Choice := []
  self : String := "getopt"
  silent : Bool := false
  mute : Bool := false
  quotes : Bool := true
  cshell : Bool := false
  alternative : Bool := false
  tests : Bool := false

/-- The choices of letters, where colons behind a letter mean a value. -/
def choicesOfLetters : List Char → List Choice
  | [] => []
  | letter :: ':' :: ':' :: rest =>
      { key := "-" ++ letter.toString, letter := some letter, needs := .perhaps } ::
        choicesOfLetters rest
  | letter :: ':' :: rest =>
      { key := "-" ++ letter.toString, letter := some letter, needs := .value } ::
        choicesOfLetters rest
  | letter :: rest =>
      { key := "-" ++ letter.toString, letter := some letter } :: choicesOfLetters rest

/-- The choices of long names, with commas or blanks between them. -/
def choicesOfNames (text : String) : List Choice :=
  let names := text.splitToList fun c => c = ',' || isWhite c
  (names.filter (· ≠ "")).map fun word =>
    let bare := String.ofList (word.toList.takeWhile (· ≠ ':'))
    let needs := match word.length - bare.length with
      | 0 => Needs.nothing
      | 1 => .value
      | _ => .perhaps
    { key := "--" ++ bare, name := some bare, needs }

/-- The next option. -/
def Settings.step (s : Settings) (option : Given) : Except Misuse Settings :=
  match option.key with
  | "a" => .ok { s with alternative := true }
  | "o" => .ok { s with letters := some option.value }
  | "l" => .ok { s with names := s.names ++ choicesOfNames option.value }
  | "n" => .ok { s with self := option.value }
  | "q" => .ok { s with silent := true }
  | "Q" => .ok { s with mute := true }
  | "s" =>
      match option.value with
      | "sh" | "bash" => .ok { s with cshell := false }
      | "csh" | "tcsh" => .ok { s with cshell := true }
      | _ => .error (.hinted "unknown shell after -s or --shell argument")
  | "T" => .ok { s with tests := true }
  | "u" => .ok { s with quotes := false }
  | _ => .ok s

/-- A value between quotes. -/
def Settings.quote (s : Settings) (text : String) : String :=
  let one (c : Char) : List Char :=
    if c = '\'' then ['\'', '\\', '\'', '\'']
    else if !s.cshell then [c]
    else if c = '\\' then ['\\', '\\']
    else if c = '!' then ['\'', '\\', '!', '\'']
    else if c = '\n' then ['\\', 'n']
    else if isWhite c then ['\'', '\\', c, '\'']
    else [c]
  if s.quotes then "'" ++ String.ofList (text.toList.flatMap one) ++ "'" else text

/-- What comes of parameters. -/
structure Result where
  /-- The words in front of the two hyphens, the last one first. -/
  words : List String := []
  operands : List String := []
  mistakes : List String := []

/-- How operands are dealt with. -/
inductive Place
  | behind
  | among
  | stop
deriving DecidableEq, Repr

/-- Adds options. -/
def Result.add (r : Result) (s : Settings) (options : List Given) : Result :=
  options.foldl (fun r option =>
    let value := if option.valued then [s.quote option.value] else []
    { r with words := value.reverse ++ option.key :: r.words }) r

/-- Puts the values in that options may have and do not. -/
def completed (choices : List Choice) (option : Given) : Given :=
  let open? := choices.any fun choice => choice.key = option.key && choice.needs = .perhaps
  if open? && !option.valued then { option with valued := true } else option

/-- The options of a cluster of letters; every mistake is kept.  The number bounds how many letters
    there are. -/
def cluster (choices : List Choice) : Nat → List Char → List String →
    List Given × List String × List String
  | 0, _, rest => ([], rest, [])
  | _, [], rest => ([], rest, [])
  | n + 1, letter :: letters, rest =>
      match choices.find? fun choice => choice.letter = some letter with
      | some { needs := .nothing, key, .. } =>
          let (options, rest, mistakes) := cluster choices n letters rest
          ({ key } :: options, rest, mistakes)
      | some _ =>
          let (options, left, mistake) := clusterOptions choices false (letter :: letters) rest
          (options, if mistake.isSome then rest else left, mistake.toList)
      | none =>
          let (options, rest, mistakes) := cluster choices n letters rest
          (options, rest, ("invalid option -- '" ++ letter.toString ++ "'") :: mistakes)

/-- Takes parameters apart.  The number bounds how many there are. -/
def read (s : Settings) (letters names : List Choice) (place : Place) : Nat → Result → List String →
    Result
  | 0, r, rest => { r with operands := r.operands ++ rest }
  | _, r, [] => r
  | n + 1, r, word :: rest =>
      let go := read s letters names place n
      let named (long : List Char) : Result :=
        let (options, left, mistake) := longOption names long rest
        let options := options.map (completed names)
        go { (r.add s options) with mistakes := r.mistakes ++ mistake.toList } left
      match word.toList with
      | ['-', '-'] => { r with operands := r.operands ++ rest }
      | '-' :: '-' :: long => named long
      | '-' :: c :: cs =>
          let starts (choice : Choice) : Bool :=
            let word := String.ofList ((c :: cs).takeWhile (· ≠ '='))
            choice.name.any fun name => name.startsWith word
          let short := cs.isEmpty && letters.any fun choice => choice.letter = some c
          if s.alternative && !short && names.any starts then named (c :: cs)
          else
            let (options, left, mistakes) := cluster letters (cs.length + 1) (c :: cs) rest
            go { (r.add s (options.map (completed letters))) with
              mistakes := r.mistakes ++ mistakes } left
      | _ =>
          match place with
          | .stop => { r with operands := r.operands ++ word :: rest }
          | .behind => go { r with operands := r.operands ++ [word] } rest
          | .among => go { r with words := s.quote word :: r.words } rest

/-- Takes parameters apart, and tells what comes of it. -/
def run (s : Settings) (description : String) (parameters : List String) : Run Unit := do
  let strict := (← exportedValue? "POSIXLY_CORRECT").isSome
  let place : Place := if description.startsWith "-" then .among
    else if description.startsWith "+" || strict then .stop else .behind
  let cs := description.toList
  let cs := if description.startsWith "-" || description.startsWith "+" then cs.drop 1 else cs
  let silent := s.silent || cs.head? = some ':'
  let cs := cs.dropWhile (· = ':')
  let r := read s (choicesOfLetters cs) s.names place (parameters.length + 1) {} parameters
  unless silent do for text in r.mistakes do say s.self text
  unless s.mute do
    emit (String.join ((r.words.reverse ++ "--" :: r.operands.map s.quote).map fun word =>
      " " ++ word) ++ "\n")
  finishWith r.mistakes.isEmpty

end Parameters

/-- Takes the parameters of a script apart. -/
def takeParameters : Tool := fun self arguments => do
  let base := baseName self
  let lacking : Run Unit := do
    say base "missing optstring argument"
    hint base
    finish 2
  match arguments with
  | [] => lacking
  | first :: rest =>
      if !first.startsWith "-" then
        let bare := String.ofList (first.toList.dropWhile fun c => c = '-' || c = '+')
        Parameters.run { quotes := false } bare rest
      else
        let u := usageFor ("+ o,options= l,longoptions= q,quiet Q,quiet-output s,shell= " ++
          "T,test u,unquoted --help a,alternative n,name= --version h V") arguments
        if u.has 'V' || u.hasName "version" then
          emit "getopt from util-linux 2.39.3\n"
          return ← finish 0
        match u.foldOptions {} Parameters.Settings.step with
        | .error m =>
            say (if u.mistake.isSome then self else base) (m.lines.headD "")
            hint base
            finish 2
        | .ok s =>
            if s.tests then finish 4
            else
              match s.letters, u.operands with
              | some letters, words => Parameters.run s letters words
              | none, letters :: words => Parameters.run s letters words
              | none, [] => lacking

end WasmBinary.Machine.Script.Tool
