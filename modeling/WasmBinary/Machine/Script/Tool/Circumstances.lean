/-
  Running programs under other circumstances.

  1. **Environments** — a program is run with other variables, or in another directory.  A single
     text may hold the options and the words of the program.

  2. **Urgency, sessions, streams** — a program is run so that it is less urgent, goes on after its
     user has left, or writes in another rhythm.

  3. **Limits** — a program is stopped when its time is over.
-/
import WasmBinary.Machine.Script.Concurrent
import WasmBinary.Machine.Script.Jobs
import WasmBinary.Machine.Script.Tool.Paths
import WasmBinary.Machine.Script.Tool.Starting
import WasmBinary.Machine.Script.Tool.Values

namespace WasmBinary.Machine.Script.Tool

open Run

/-! ## Environments -/

namespace Environment

/-- How the words of a text are taken apart. -/
structure Parting where
  /-- The word in the making, the last character first. -/
  word : Option (List Char) := none
  /-- The words that are done, the last one first. -/
  words : List String := []
  quote : Option Char := none
  /-- Whether a new word would start here. -/
  apart : Bool := true

namespace Parting

/-- Puts the word in the making to the others. -/
def close (p : Parting) : Parting :=
  match p.word with
  | some cs => { p with word := none, words := String.ofList cs.reverse :: p.words, apart := true }
  | none => { p with apart := true }

/-- Adds characters to the word in the making. -/
def add (p : Parting) (cs : List Char) : Parting :=
  { p with word := some (cs.reverse ++ p.word.getD []), apart := false }

/-- What comes of the words at the end. -/
def result (p : Parting) : Except String (List String) :=
  if p.quote.isSome then .error "no terminating quote in -S string"
  else .ok p.close.words.reverse

end Parting

/-- The name of a variable between braces behind a dollar sign, and what follows it. -/
def variableName? (cs : List Char) : Option (String × List Char) :=
  match cs with
  | '$' :: '\x7b' :: c :: rest =>
      let name := c :: rest.takeWhile fun c => c.isAlphanum || c = '_'
      if !(c.isAlpha || c = '_') then none
      else
        match rest.drop (name.length - 1) with
        | '\x7d' :: behind => some (String.ofList name, behind)
        | _ => none
  | _ => none

/-- Takes a text apart into words, given the values of variables.  The number bounds how many
    characters there are. -/
def wordsOf (value? : String → Option String) : Nat → Parting → List Char →
    Except String (List String)
  | 0, p, _ | _, p, [] => p.result
  | n + 1, p, c :: rest =>
      let go := wordsOf value? n
      let single := p.quote = some '\''
      let double := p.quote = some '"'
      if c = '\'' && !double then
        go { p.add [] with quote := if single then none else some c } rest
      else if c = '"' && !single then
        go { p.add [] with quote := if double then none else some c } rest
      else if isWhite c && p.quote.isNone then go p.close rest
      else if c = '#' && p.apart && p.quote.isNone then p.result
      else if c = '\\' && (!single || rest.head? = some '\\' || rest.head? = some '\'') then
        match rest with
        | [] => .error "invalid backslash at end of string in -S"
        | letter :: rest =>
            match letter with
            | '"' | '#' | '$' | '\'' | '\\' => go (p.add [letter]) rest
            | '_' => if double then go (p.add [' ']) rest else go p.close rest
            | 'c' =>
                if double then .error "'\\c' must not appear in double-quoted -S string"
                else p.result
            | 'f' => go (p.add ['\x0c']) rest
            | 'n' => go (p.add ['\n']) rest
            | 'r' => go (p.add ['\r']) rest
            | 't' => go (p.add ['\t']) rest
            | 'v' => go (p.add ['\x0b']) rest
            | letter => .error ("invalid sequence '\\" ++ letter.toString ++ "' in -S")
      else if c = '$' && !single then
        match variableName? (c :: rest) with
        | none =>
            .error ("only $\x7bVARNAME\x7d expansion is supported, error at: " ++
              String.ofList (c :: rest))
        | some (name, behind) =>
            match value? name with
            | some value => go (p.add value.toList) behind
            | none => go p behind
      else go (p.add [c]) rest

/-- What a word among the options means for a text that holds others. -/
inductive Place
  /-- An option that holds a text, with the options in front of it in the same word. -/
  | text (front : String) (joined : Option String)
  /-- The next word belongs to this one. -/
  | pair
  | alone
  /-- There are no options any more. -/
  | last

/-- What a word among the options means for a text that holds others. -/
def Place.ofWord (word : String) : Place :=
  let named (name : String) : Bool := 3 ≤ word.length && name.startsWith word
  match word.toList with
  | ['-'] | ['-', '-'] => .last
  | '-' :: '-' :: _ =>
      let front := (word.splitOn "=").headD ""
      if "--split-string".startsWith front && 3 ≤ front.length then
        .text "" (if word.contains '=' then some (word.drop (front.length + 1)).toString else none)
      else if named "--unset" || named "--chdir" then .pair
      else .alone
  | '-' :: letters =>
      let plain := letters.takeWhile fun c => !"SuC".contains c
      match letters.drop plain.length with
      | 'S' :: rest =>
          .text (String.ofList ('-' :: plain))
            (if rest.isEmpty then none else some (String.ofList rest))
      | [_] => .pair
      | _ => .alone
  | _ => .last

/-- The arguments with the words of texts in their places; with what is told about that. -/
def spliced (value? : String → Option String) : Nat → List String → List String →
    Except String (List String)
  | 0, front, words => .ok (front.reverse ++ words)
  | _, front, [] => .ok front.reverse
  | n + 1, front, word :: rest =>
      match Place.ofWord word, rest with
      | .last, _ => .ok (front.reverse ++ word :: rest)
      | .alone, _ => spliced value? n (word :: front) rest
      | .pair, value :: rest => spliced value? n (value :: word :: front) rest
      | .pair, [] => .ok (front.reverse ++ [word])
      | .text _ none, [] => .ok (front.reverse ++ [word])
      | .text options joined, _ => do
          let text := joined.getD (rest.headD "")
          let rest := if joined.isSome then rest else rest.drop 1
          let words ← wordsOf value? (text.length + 1) {} text.toList
          let front := if options.length < 2 then front else options :: front
          spliced value? n front (words ++ rest)

/-- The options of a tool that changes the environment. -/
def choices : String :=
  "+ i,ignore-environment 0,null u,unset= C,chdir= --default-signal=? --ignore-signal=? " ++
    "--block-signal=? --list-signal-handling v,debug S,split-string="

/-- The signals that no option may name. -/
def wrongSignal? (u : Usage) : Option String :=
  let named := u.options.filter fun option =>
    ["default-signal", "ignore-signal", "block-signal"].contains option.key && option.valued
  (named.flatMap fun option => (option.value.splitOn ",")).find? fun name =>
    let bare := if name.startsWith "SIG" then (name.drop 3).toString else name
    (Signal.ofText? bare).isNone

end Environment

/-- Runs a program with other variables, or tells the variables. -/
def environment (start : Starter) : Tool := fun self arguments => do
  let bindings := (← shell).bindings
  let value? (name : String) : Option String := (bindings.lookup name).bind Variable.value
  match Environment.spliced value? 1000 [] arguments with
  | .error text => fail self text 125
  | .ok arguments =>
  withUsage Environment.choices self arguments (fun u => do
    let debugs := u.has 'v'
    let remark (text : String) : Run Unit := if debugs then tell (text ++ "\n") else pure ()
    if let some name := Environment.wrongSignal? u then
      return ← misuse self (quoted name ++ ": invalid signal") 125
    let bare := u.operands.head? = some "-"
    let operands := if bare then u.operands.drop 1 else u.operands
    if bare || u.has 'i' then
      remark "cleaning environ"
      modifyShell fun s => { s with bindings := [] }
    else
      for name in u.values 'u' do
        remark ("unset:    " ++ name)
        if name = "" || name.contains '=' then
          fail self ("cannot unset " ++ quoted name ++ ": Invalid argument") 125
          throw .failed
        dropVariable name
    let assignments := operands.takeWhile (·.contains '=')
    for word in assignments do
      remark ("setenv:   " ++ word)
      let name := String.ofList (word.toList.takeWhile (· ≠ '='))
      let value := String.ofList (word.toList.drop (name.length + 1))
      let v : Variable := { value := some value, exported := true }
      modifyShell fun s =>
        if (s.bindings.lookup name).isNone then { s with bindings := (name, v) :: s.bindings }
        else { s with bindings := s.bindings.map fun entry =>
          if entry.1 = name then (name, v) else entry }
    match operands.drop assignments.length with
    | [] =>
        if u.has 'C' then misuse self "must specify command with --chdir (-C)" 125
        else showEnvironment self (if u.has '0' then ["-0"] else [])
    | words =>
        if u.has '0' then return ← misuse self "cannot specify --null (-0) with command" 125
        if let some path := u.value? 'C' then
          remark ("chdir:    " ++ quoted path)
          let fault? : Option FileFault ← match ← lookAt path with
            | .error fault => pure (some fault)
            | .ok (i, node) =>
                if !node.isDirectory then pure (some FileFault.notADirectory)
                else do
                  let directoryPath := (← files).pathOf i
                  modifyShell fun s => { s with directory := i, directoryPath }
                  pure none
          if let some fault := fault? then
            let what := "cannot change directory to " ++ quoted path
            return ← fail self (what ++ ": " ++ fault.words) 125
        let name := words.headD ""
        remark ("executing: " ++ name)
        for (word, i) in words.zipIdx do
          remark ("   arg[" ++ toString i ++ "]= " ++ quoted word)
        startOr start words quoted self
        if (← shell).status = 127 && name.toList.any isWhite then
          say self "use -[v]S to pass options in shebang lines") 125

/-! ## Urgency, sessions, streams -/

/-- What is said about a command that cannot be run. -/
def notRun (name : String) : String := "failed to run command " ++ quoted name

/-- Runs a program that goes on after its user has left. -/
def detach (start : Starter) : Tool := fun self arguments =>
  withUsage "+ " self arguments (fun u =>
    if u.operands.isEmpty then misuse self "missing operand" 125
    else startOr start u.operands notRun self) 125

/-- Runs a program of its own session. -/
def inSession (start : Starter) : Tool := fun self arguments =>
  withUsage "+ c,ctty f,fork w,wait" self arguments fun u =>
    if u.operands.isEmpty then misuse self "no command specified"
    else startOr start u.operands (fun name => "failed to execute " ++ name) self

/-- The arguments of a tool that changes the urgency, with the old way to write the option in its
    place. -/
def urgencyArguments : List String → List String
  | [] => []
  | word :: rest =>
      match word.toList with
      | '-' :: c :: cs =>
          let signed := c = '-' || c = '+'
          let digits := if signed then cs else c :: cs
          if digits.head?.any Char.isDigit then
            ("-n" ++ String.ofList (if c = '+' then cs else c :: cs)) :: urgencyArguments rest
          else if word = "-n" || word = "--adjustment" then
            match rest with
            | value :: rest => word :: value :: urgencyArguments rest
            | [] => [word]
          else if word = "--" || !word.startsWith "-" then word :: rest
          else word :: urgencyArguments rest
      | _ => word :: rest

/-- Runs a program that is less urgent. -/
def yielding (start : Starter) : Tool := fun self arguments =>
  withUsage "+ n,adjustment=" self (urgencyArguments arguments) (fun u => do
    let adjustment : Option Int ← match u.value? 'n' with
      | none => pure (some 10)
      | some text =>
          let (negative, digits) := Numeral.signOf (text.toList.dropWhile isWhite)
          if digits.isEmpty || digits.any fun c => !c.isDigit then
            fail self ("invalid adjustment " ++ quoted text) 125
            throw .failed
          else
            let n : Int := Nat.ofDigitChars 10 digits 0
            pure (some (if negative then -n else n))
    let niceness := (← shell).niceness
    if u.operands.isEmpty then
      if u.has 'n' then misuse self "a command must be given with an adjustment" 125
      else
        emit (toString niceness ++ "\n")
        finish 0
    else
      let wanted : Int := niceness + adjustment.getD 0
      if wanted < niceness then say self "cannot set niceness: Permission denied"
      else modifyShell fun s => { s with niceness := min 19 wanted.toNat }
      startOr start u.operands quoted self) 125

/-- Runs a program whose streams are written in another rhythm.  What is written stays the same. -/
def inRhythm (start : Starter) : Tool := fun self arguments =>
  let step (given : Bool) (option : Given) : Except Misuse Bool := do
    let mode := String.ofList (option.value.toList.dropWhile isWhite)
    if option.key = "i" && mode = "L" then
      throw (.hinted "line buffering stdin is meaningless")
    else if mode = "L" then return true
    else
      match amount "EGkKMPQRTYZ0" mode with
      | .ok _ => return given || true
      | .error fault => throw (.plain ("invalid mode " ++ quoted option.value ++ fault.ending))
  withSettings "+ e,error= i,input= o,output=" false step self arguments (fun given operands =>
    if operands.isEmpty then misuse self "missing operand" 125
    else if !given then misuse self "you must specify a buffering mode option" 125
    else startOr start operands notRun self) 125

/-! ## Limits -/

/-- How a program that may run for a time has ended. -/
inductive Ended
  | inTime
  /-- It was sent a signal, and has ended by itself. -/
  | late
  | stopped
  /-- It was stopped by force, some time after the signal. -/
  | forced
deriving DecidableEq, Repr

/-- Runs something for a time. -/
def endsWithin (milliseconds signal : Nat) (grace : Option Nat) (body : Run Unit) : Run Ended := do
  let before := (← get).world
  let outer := before.deadline
  let limit := before.clock + milliseconds
  if outer ≤ limit then
    body
    return .inTime
  else
    let last := (grace.map (limit + ·)).getD outer
    let alarm : Alarm :=
      { process := before.processes + 1
        signal
        name := Signal.name signal
        next := min last outer }
    modifyWorld fun w => { w with deadline := limit, alarm := some alarm }
    let stop ← ending body
    let after := (← get).world
    modifyWorld fun w => { w with deadline := outer, alarm := before.alarm }
    match stop with
    | none => return if after.alarm.isSome then .inTime else .late
    | some .killed =>
        modifyWorld fun w => { w with budget := max w.budget readersBudget }
        if after.alarm.isSome then return .stopped
        else if after.deadline < outer then return .forced
        else throw .killed
    | some (.blocked node writing) =>
        let w := (← get).world
        let helped := w.jobs.any fun job =>
          job.status.isNone && job.blocked = some (node, !writing)
        if w.queues.behind || helped then throw (.blocked node writing)
        modifyWorld fun w => w.at limit
        return .stopped
    | some stop => throw stop

/-- How long a program may run. -/
structure Limit where
  signal : Nat := 15
  verbose : Bool := false
  keepsStatus : Bool := false
  /-- How long it may run after the signal. -/
  grace : Option Nat := none

/-- The next option. -/
def Limit.step (l : Limit) (option : Given) : Except Misuse Limit :=
  match option.key with
  | "s" =>
      let name := option.value
      match Signal.ofText? (if name.startsWith "SIG" then (name.drop 3).toString else name) with
      | some signal => .ok { l with signal }
      | none => .error (.hinted (quoted name ++ ": invalid signal"))
  | "k" =>
      match duration? option.value with
      | some grace => .ok { l with grace := grace.bind fun n => if n = 0 then none else some n }
      | none => .error (.hinted ("invalid time interval " ++ quoted option.value))
  | "v" => .ok { l with verbose := true }
  | "preserve-status" => .ok { l with keepsStatus := true }
  | _ => .ok l

/-- Runs a program for a time. -/
def limited (start : Starter) : Tool := fun self arguments =>
  withSettings "+ k,kill-after= s,signal= v,verbose --foreground --preserve-status" {} Limit.step
    self arguments (fun l operands => do
      match operands with
      | [] | [_] =>
          hint self
          finish 125
      | time :: words =>
          match duration? time with
          | none => misuse self ("invalid time interval " ++ quoted time) 125
          | some limit =>
              let run := startOr start words notRun self
              match limit with
              | none | some 0 => run
              | some milliseconds =>
                  let ended ← endsWithin milliseconds l.signal l.grace run
                  let remark (signal : Nat) : Run Unit :=
                    say self ("sending signal " ++ Signal.name signal ++ " to command " ++
                      quoted (words.headD ""))
                  if l.verbose && ended ≠ .inTime then remark l.signal
                  match ended with
                  | .inTime => return
                  | .late => unless l.keepsStatus do finish 124
                  | .stopped =>
                      if Signal.name l.signal = "KILL" then throw (.signalled l.signal)
                      finish (if l.keepsStatus then 128 + l.signal else 124)
                  | .forced =>
                      if l.verbose then remark 9
                      throw (.signalled 9)) 125

end WasmBinary.Machine.Script.Tool
