/-
  The options of tools, and the quotes in what tools say.

  1. **Cited** texts stand between single quotes; quotes, backslashes and what cannot be printed
     are written with a backslash.

  2. **Names** are shown so that a shell would read them as they are.  Most stand between single
     quotes, where a single quote itself has to be left for a moment.  Names with single quotes but
     without anything else of meaning stand between double quotes.  What cannot be printed is
     written as an escape, with quotes of its own around it.  Some messages show names without
     quotes where no character of them has a meaning.

  3. **Choices** — a tool says which options it has: letters, long names, or both for the same
     option, and whether a value belongs to it.

  4. **Words** — options may stand between the operands, up to a double hyphen.  Letters can be
     joined, long names can be shortened as long as they stay clear, and a value can be joined to
     its option or follow it.

  5. **Order** — options are taken one after the other, so that the first mistake is the one that
     is told.
-/

namespace WasmBinary.Machine.Script.Tool

/-! ## Quotes -/

/-- Whether a character can be printed. -/
def isPrintable (c : Char) : Bool := 32 ≤ c.toNat && c.toNat < 127

/-- The letter of the escape for a character, where there is one. -/
def escapeLetter? (c : Char) : Option Char :=
  match c.toNat with
  | 7 => some 'a'
  | 8 => some 'b'
  | 9 => some 't'
  | 10 => some 'n'
  | 11 => some 'v'
  | 12 => some 'f'
  | 13 => some 'r'
  | _ => none

/-- The escape of a character that cannot be printed. -/
def escapeOf (c : Char) : List Char :=
  match escapeLetter? c with
  | some letter => ['\\', letter]
  | none => '\\' :: (Nat.toDigits 8 c.toNat).leftpad 3 '0'

/-- A text between single quotes, with escapes. -/
def cited (text : String) : String :=
  let shown (c : Char) : List Char :=
    if c = '\'' || c = '\\' then ['\\', c] else if isPrintable c then [c] else escapeOf c
  "'" ++ String.ofList (text.toList.flatMap shown) ++ "'"

/-- Whether a character at a place makes quotes around a name necessary. -/
def needsQuotes (c : Char) (first alone : Bool) : Bool :=
  !isPrintable c || c = '\'' || c = '\\' || c = '?' ||
    " !\"$&()*;<=>[^|".toList.contains c || c.toNat = 0x60 ||
    (first && (c = '#' || c = '~')) || (alone && (c = '\x7b' || c = '\x7d'))

/-- Whether a name needs no quotes. -/
def isPlain (name : String) : Bool :=
  match name.toList with
  | [] => false
  | [c] => !needsQuotes c true true
  | c :: rest => !needsQuotes c true false && !rest.any fun c => needsQuotes c false false

/-- Whether a character can stand between double quotes as it is. -/
def isHarmless (c : Char) (first : Bool) : Bool :=
  isPrintable c && c != '\\' && c != '?' && !("!\"$&()*;<=>[^|".toList.contains c) &&
    c.toNat != 0x60 && (first || (c != '#' && c != '~'))

/-- The characters of a name between single quotes; the flag says whether an escape is open. -/
def insideQuotes : (escaping : Bool) → List Char → List Char
  | _, [] => []
  | escaping, c :: rest =>
      if c = '\'' then
        (if escaping then [] else ['\'']) ++ ['\\', '\'', '\''] ++ insideQuotes false rest
      else if isPrintable c then
        (if escaping then ['\'', '\''] else []) ++ c :: insideQuotes false rest
      else (if escaping then [] else ['\'', '$', '\'']) ++ escapeOf c ++ insideQuotes true rest

/-- A name between quotes. -/
def quoted (name : String) : String :=
  let cs := name.toList
  let harmless := match cs with
    | [] => true
    | c :: rest => isHarmless c true && rest.all fun c => isHarmless c false
  if cs.contains '\'' && harmless then "\"" ++ name ++ "\""
  else "'" ++ String.ofList (insideQuotes false cs) ++ "'"

/-- A name as it can stand in a command, between quotes if it needs them. -/
def commandForm (name : String) : String := if isPlain name then name else quoted name

/-- A name in front of a colon, between quotes if it needs them. -/
def shown (name : String) : String := if name.contains ':' then quoted name else commandForm name

/-! ## Options -/

/-- Whether a value belongs to an option. -/
inductive Needs
  | nothing
  | value
  /-- A value may be joined to the option. -/
  | perhaps
deriving DecidableEq, Repr

/-- An option that a tool has.  It is known by its letter, or by its long name if it has none. -/
structure Choice where
  key : String
  letter : Option Char := none
  name : Option String := none
  needs : Needs := .nothing

/-- The choices that a word describes: a letter, long names behind two hyphens, or a letter and long
    names, with commas between them.  They all mean the same option.  An equals sign behind them
    means a value, with a question mark one that may be missing. -/
def choicesOfWord (word : String) : List Choice :=
  let cs := word.toList
  let body := cs.takeWhile fun c => c != '='
  let body := if body.isEmpty then cs else body
  let needs := match cs.drop body.length with
    | [] => Needs.nothing
    | ['=', '?'] => .perhaps
    | _ => .value
  let names (long : List Char) : List String := (String.ofList long).splitOn ","
  match body with
  | '-' :: '-' :: long =>
      (names long).map fun name => { key := (names long).headD "", name := some name, needs }
  | letter :: ',' :: long =>
      match names long with
      | [] => []
      | name :: others =>
          { key := letter.toString, letter := some letter, name := some name, needs } ::
            others.map fun name => { key := letter.toString, name := some name, needs }
  | letter :: _ => [{ key := letter.toString, letter := some letter, needs }]
  | [] => []

/-- The choices that a text describes, with blanks between them.  A plus sign alone is none. -/
def choicesOf (text : String) : List Choice :=
  ((text.splitOn " ").filter fun word => word ≠ "" && word ≠ "+").flatMap choicesOfWord

/-- An option that was given. -/
structure Given where
  key : String
  value : String := ""
  /-- Whether there was a value. -/
  valued : Bool := false
  /-- Whether it was given by its long name. -/
  long : Bool := false
  /-- Whether another letter stands right in front of it. -/
  joined : Bool := false
  /-- How it was written. -/
  written : String := ""

/-- Options with their values, operands, and what is wrong behind the options, if anything. -/
structure Usage where
  options : List Given := []
  operands : List String := []
  mistake : Option String := none

namespace Usage

/-- Whether an option is given. -/
def has (u : Usage) (letter : Char) : Bool :=
  u.options.any fun option => option.key = letter.toString

/-- Whether an option is given that is known by a name. -/
def hasName (u : Usage) (name : String) : Bool := u.options.any fun option => option.key = name

/-- The value of the last option of a key. -/
def valueOf? (u : Usage) (key : String) : Option String :=
  ((u.options.filter fun option => option.key = key && option.valued).getLast?).map Given.value

/-- The value of the last option of a letter. -/
def value? (u : Usage) (letter : Char) : Option String := u.valueOf? letter.toString

/-- All values of the options of a letter. -/
def values (u : Usage) (letter : Char) : List String :=
  (u.options.filter fun option => option.key = letter.toString).map Given.value

/-- Which of some letters is given last. -/
def lastOf? (u : Usage) (letters : String) : Option Char :=
  (u.options.reverse.find? fun option => letters.toList.any fun c => c.toString = option.key).bind
    fun option => option.key.toList.head?

end Usage

/-- The choice that a long name stands for, or what is wrong with it. -/
def longChoice (choices : List Choice) (name whole : String) : Except String Choice :=
  match choices.find? fun choice => choice.name = some name with
  | some choice => .ok choice
  | none =>
      let starts (choice : Choice) : Bool := choice.name.any fun long => long.startsWith name
      match choices.filter starts with
      | [] => .error ("unrecognized option '--" ++ whole ++ "'")
      | first :: others =>
          if others.all fun choice => choice.key = first.key then .ok first
          else
            let distinct := others.filter fun choice => choice.key ≠ first.key
            let names := (first :: distinct).filterMap Choice.name
            .error ("option '--" ++ whole ++ "' is ambiguous; possibilities:" ++
              String.join (names.map fun long => " '--" ++ long ++ "'"))

/-- What comes of reading words: options, the words that are left, and what is wrong. -/
abbrev Cluster := List Given × List String × Option String

/-- The options of a cluster of letters, and the words behind it that are left. -/
def clusterOptions (choices : List Choice) : (joined : Bool) → List Char → List String → Cluster
  | _, [], words => ([], words, none)
  | joined, letter :: letters, words =>
      let written := "-" ++ letter.toString
      match choices.find? fun choice => choice.letter = some letter with
      | none => ([], words, some ("invalid option -- '" ++ letter.toString ++ "'"))
      | some choice =>
          let here (value : List Char) : Given :=
            { key := choice.key, value := String.ofList value, valued := true, joined, written }
          match choice.needs, letters, words with
          | .nothing, _, _ =>
              let (options, words, mistake) := clusterOptions choices true letters words
              ({ key := choice.key, joined, written } :: options, words, mistake)
          | .perhaps, [], _ => ([{ key := choice.key, joined, written }], words, none)
          | .perhaps, value, _ => ([here value], words, none)
          | .value, [], [] =>
              ([], words, some ("option requires an argument -- '" ++ letter.toString ++ "'"))
          | .value, [], value :: words => ([here value.toList], words, none)
          | .value, value, words => ([here value], words, none)

/-- The option that a word behind two hyphens is, and the words behind it that are left. -/
def longOption (choices : List Choice) (long : List Char) (rest : List String) : Cluster :=
  let name := String.ofList (long.takeWhile (· ≠ '='))
  let joined := name.length < long.length
  let value := String.ofList (long.drop (name.length + 1))
  match longChoice choices name (String.ofList long) with
  | .error text => ([], rest, some text)
  | .ok choice =>
      let written := "--" ++ choice.name.getD name
      let plain : Given := { key := choice.key, long := true, written }
      let filled (value : String) : Given := { plain with value, valued := true }
      match choice.needs with
      | .nothing =>
          if joined then ([], rest, some ("option '" ++ written ++ "' doesn't allow an argument"))
          else ([plain], rest, none)
      | .perhaps => ([if joined then filled value else plain], rest, none)
      | .value =>
          if joined then ([filled value], rest, none)
          else
            match rest with
            | [] => ([], rest, some ("option '" ++ written ++ "' requires an argument"))
            | value :: rest => ([filled value], rest, none)

/-- Takes options and operands apart; the first operand may end the options. -/
def usageOf (choices : List Choice) (stops : Bool) : Nat → List String → Usage
  | 0, words => { operands := words }
  | _, [] => {}
  | n + 1, word :: rest =>
      let onward (cluster : Cluster) : Usage :=
        match cluster with
        | (options, _, some mistake) => { options, mistake := some mistake }
        | (options, rest, none) =>
            let u := usageOf choices stops n rest
            { u with options := options ++ u.options }
      match word.toList with
      | ['-', '-'] => { operands := rest }
      | '-' :: '-' :: long => onward (longOption choices long rest)
      | '-' :: letter :: letters => onward (clusterOptions choices false (letter :: letters) rest)
      | _ =>
          if stops then { operands := word :: rest }
          else
            let u := usageOf choices stops n rest
            { u with operands := word :: u.operands }

/-- The choices of a tool, with those that all tools have. -/
def withUsual (own : List Choice) : List Choice :=
  own ++ (choicesOf "--help --version").filter fun choice =>
    !own.any fun other => other.name = choice.name

/-- Takes options and operands apart by the text of the choices.  A plus sign in front of it means
    that the first operand ends the options. -/
def usageFor (choices : String) (arguments : List String) : Usage :=
  usageOf (withUsual (choicesOf choices)) (choices.startsWith "+ ") (arguments.length + 1) arguments

/-- Something that is wrong with how a tool is used. -/
structure Misuse where
  /-- The lines that are said; the first one in the name of the tool. -/
  lines : List String
  /-- Whether every line is said in the name of the tool. -/
  everyLine : Bool := false
  /-- Whether it is said where help is to be found. -/
  hint : Bool := true
  /-- The status, where it is not the usual one. -/
  status : Option Nat := none

/-- Something wrong, with the hint where to find help. -/
def Misuse.hinted (text : String) : Misuse := { lines := [text] }

/-- Something wrong, without a hint. -/
def Misuse.plain (text : String) : Misuse := { lines := [text], hint := false }

/-- The word that a text means, of those that an option can have as its value; the text may be the
    beginning of a word.  Words that mean the same stand together with bars between them, and the
    first of them is what comes of it. -/
def choiceOf (words : List String) (text option : String) : Except Misuse String :=
  let groups := words.map fun word => word.splitOn "|"
  let first (group : List String) : String := group.headD ""
  match groups.find? fun group => group.contains text with
  | some group => .ok (first group)
  | none =>
      match groups.filter fun group => group.any fun word => word.startsWith text with
      | [group] => .ok (first group)
      | found =>
          let kind := if found.isEmpty then "invalid" else "ambiguous"
          .error { lines := (kind ++ " argument " ++ cited text ++ " for " ++ cited option) ::
            "Valid arguments are:" ::
              groups.map fun group => "  - " ++ ", ".intercalate (group.map cited) }

/-- What options come to, one after the other.  What is wrong behind them is told only if nothing
    was wrong with them. -/
def Usage.foldOptions {σ : Type} (u : Usage) (initial : σ)
    (step : σ → Given → Except Misuse σ) : Except Misuse σ := do
  let settings ← u.options.foldlM step initial
  match u.mistake with
  | some text => .error (.hinted text)
  | none => return settings

end WasmBinary.Machine.Script.Tool
