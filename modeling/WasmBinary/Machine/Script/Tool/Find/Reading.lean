/-
  Reading what is looked for among files.

  1. **Words** — every word of an expression is a test, an action, a switch for the whole search,
     an operator or a parenthesis; arguments follow it.

  2. **Order** — "not" binds closest, then "and", which need not be written, then "or", then commas.

  3. **Mistakes** are told in fixed words; nothing is looked for then.
-/
import WasmBinary.Machine.Script.Regex.Matching
import WasmBinary.Machine.Script.Regex.Reading
import WasmBinary.Machine.Script.Tool.Dates
import WasmBinary.Machine.Script.Tool.Find.Basic
import WasmBinary.Machine.Script.Tool.Modes

namespace WasmBinary.Machine.Script.Tool.Find

open Run

/-- When links are followed. -/
inductive Following
  | never
  | operands
  | always
deriving DecidableEq, Repr

/-- What a word of an expression is. -/
inductive Part
  | goal (g : Goal)
  | negation
  | conjunction
  | disjunction
  | comma
  | opening
  | closing

/-- The words of a program that paths are gathered for: those in front and those behind. -/
structure Gathering where
  front : List String
  behind : List String
  inDirectory : Bool

/-- A search. -/
structure Plan where
  least : Nat := 0
  most : Option Nat := none
  childrenFirst : Bool := false
  following : Following := .never
  dialect : Regex.Dialect := .editors
  fromMidnight : Bool := false
  parts : List (Part × String) := []
  gatherings : List Gathering := []
  /-- Whether there is an action other than to leave out a directory. -/
  acts : Bool := false
  now : Int
  zone : Calendar.Zone

/-- Reading an expression. -/
abbrev Planning := StateT Plan (ExceptT Misuse Run)

/-- Stops with a message. -/
def fault {α : Type} (text : String) : Planning α := throw (.plain text)

/-- A text between a backtick and a quote. -/
def ticked (text : String) : String := (Char.ofNat 0x60).toString ++ text ++ "'"

/-- Adds a part. -/
def addPart (name : String) (part : Part) : Planning Unit :=
  modify fun p => { p with parts := p.parts ++ [(part, name)] }

/-- Adds a test. -/
def addTest (name : String) (holds : Visit → Bool) : Planning Unit :=
  addPart name (.goal (.test holds))

/-- Adds an action. -/
def addAction (name : String) (action : Action) : Planning Unit := do
  modify fun p => { p with acts := true }
  addPart name (.goal (.act action))

/-- Says something while the words are read. -/
def sayNow (self text : String) : Planning Unit := StateT.lift (ExceptT.lift (say self text))

/-- Runs something while the words are read. -/
def now {α : Type} (run : Run α) : Planning α := StateT.lift (ExceptT.lift run)

/-- The argument of a word, and the words behind it. -/
def argument (name : String) : List String → Planning (String × List String)
  | [] => fault ("missing argument to " ++ ticked name)
  | value :: rest => return (value, rest)

/-- The fault of an argument that makes no sense. -/
def invalid {α : Type} (name value : String) : Planning α :=
  fault ("invalid argument " ++ ticked value ++ " to " ++ ticked name)

/-- The node that an argument names, with its number. -/
def nodeOfArgument (path : String) : Planning (Nat × Node) := do
  let p ← get
  match ← now (lookAt path (p.following ≠ .never)) with
  | .ok found => return found
  | .error reason => fault (quoted path ++ ": " ++ reason.words)

/-! ## Tests -/

/-- The pattern that a text is; a circumflex negates a set as well as an exclamation mark. -/
def patternOf (caseless : Bool) (text : String) : List Pattern.Mark :=
  let rec turned : List Char → List Char
    | '\\' :: c :: rest => '\\' :: c :: turned rest
    | '[' :: '^' :: rest => '[' :: '!' :: turned rest
    | c :: rest => c :: turned rest
    | [] => []
  Pattern.ofText true
    (String.ofList (turned (if caseless then text.toList.map Char.toLower else text.toList)))

/-- Whether a text fits a pattern. -/
def fitsText (caseless : Bool) (pattern : List Pattern.Mark) (text : String) : Bool :=
  Pattern.fits pattern (if caseless then text.toList.map Char.toLower else text.toList)

/-- The letters of kinds that a text lists with commas between them. -/
def kindsOf (name : String) : Nat → List Char → List Char → Planning (List Char)
  | 0, found, _ | _, found, [] => return found
  | n + 1, found, c :: rest => do
      if !"bcdpflsD".contains c then fault ("Unknown argument to " ++ name ++ ": " ++ c.toString)
      if c = 'D' then
        fault (name ++ " D is not supported because Solaris doors are not supported on the " ++
          "platform find was compiled on.")
      if found.contains c then
        fault ("Duplicate file type '" ++ c.toString ++ "' in the argument list to " ++ name ++ ".")
      match rest with
      | [] => return c :: found
      | [','] =>
          fault ("Last file type in list argument to " ++ name ++
            " is missing, i.e., list is ending on: ','")
      | ',' :: rest => kindsOf name n (c :: found) rest
      | _ => fault ("Must separate multiple arguments to " ++ name ++ " using: ','")

/-- The test for a size. -/
def sizeTest (value : String) : Planning (Visit → Bool) := do
  let cs := value.toList
  match cs.getLast? with
  | none => fault "invalid null argument to -size"
  | some last =>
      let unit ← match last with
        | 'b' => pure 512
        | 'c' => pure 1
        | 'w' => pure 2
        | 'k' => pure 1024
        | 'M' => pure (Nat.pow 1024 2)
        | 'G' => pure (Nat.pow 1024 3)
        | c => if c.isDigit then pure 512 else fault ("invalid -size type " ++ ticked c.toString)
      let number := if last.isDigit then value else String.ofList cs.dropLast
      match Measure.ofText? number with
      | none =>
          fault ("Invalid argument " ++ ticked (number ++
            (if last.isDigit then "b" else last.toString)) ++ " to -size")
      | some m => return fun v => m.fits ((v.node.size + unit - 1) / unit)

/-- The test for a mode. -/
def modeTest (value : String) : Planning (Visit → Bool) := do
  let (kind, text) := match value.toList with
    | '-' :: rest => ('-', String.ofList rest)
    | '/' :: rest => ('/', String.ofList rest)
    | _ => ('=', value)
  match modeAfter 0 text 0, modeAfter 0 text 0 true with
  | some plain, some folder =>
      if text = "" then fault ("invalid mode " ++ quoted value)
      return fun v =>
        let bits := if v.node.isDirectory then folder else plain
        match kind with
        | '-' => v.node.mode &&& bits = bits
        | '/' => bits = 0 || v.node.mode &&& bits != 0
        | _ => v.node.mode = bits
  | _, _ => fault ("invalid mode " ++ quoted value)

/-- A number with places behind the point, in millionths. -/
def millionths? (cs : List Char) : Option Nat :=
  let whole := cs.takeWhile Char.isDigit
  match cs.drop whole.length with
  | [] => if whole.isEmpty then none else some (Nat.ofDigitChars 10 whole 0 * 1000000)
  | '.' :: places =>
      if places.all Char.isDigit && !(whole.isEmpty && places.isEmpty) then
        some (Nat.ofDigitChars 10 (whole ++ (places.take 6).rightpad 6 '0') 0)
      else none
  | _ => none

/-- The test for an age in units of so many seconds. -/
def ageTest (name value : String) (unit : Nat) (moment : Node → Int) :
    Planning (Visit → Bool) := do
  let p ← get
  let (kind, cs) := match value.toList with
    | '+' :: rest => ('+', rest)
    | '-' :: rest => ('-', rest)
    | cs => ('=', cs)
  match millionths? cs with
  | none => invalid name value
  | some n =>
      let second : Int := 1000000000
      let day := 86400 * second
      let origin := if p.fromMidnight then Int.fdiv p.now day * day + day else p.now
      let span : Int := unit * second
      let limit : Int := origin - (n : Int) * unit * 1000
      return fun v =>
        let t := moment v.node
        if unit = 60 then
          match kind with
          | '+' => t < limit
          | '-' => limit < t
          | _ => limit < t && t ≤ limit + span
        else
          match kind with
          | '+' => t ≤ limit - span
          | '-' => limit < t
          | _ => limit - span < t && t ≤ limit

/-- The test whether a file is newer than a moment. -/
def newerTest (letter : Char) (moment : Int) : Visit → Bool := fun v =>
  moment < if letter = 'a' then v.node.used else v.node.changed

/-- The test for a regular expression. -/
def regexTest (caseless : Bool) (value : String) : Planning (Visit → Bool) := do
  match Regex.parse (← get).dialect value with
  | .error message =>
      fault ("failed to compile regular expression " ++ quoted value ++ ": " ++
        (if message = Regex.openSet then "Invalid regular expression" else message))
  | .ok (r, _) =>
      return fun v =>
        ((Regex.Searcher.of { text := v.path.toList.toArray, caseless } r).whole?).isSome

/-- The names of the notations of regular expressions. -/
def dialectOf? (name : String) : Option Regex.Dialect :=
  match name with
  | "findutils-default" | "emacs" => some .editors
  | "ed" | "sed" | "posix-basic" => some .basic
  | "posix-minimal-basic" => some { Regex.Dialect.basic with choices := false }
  | "grep" => some .loose
  | "awk" | "gnu-awk" | "posix-awk" | "posix-extended" => some .extended
  | "egrep" | "posix-egrep" => some .lenient
  | _ => none

/-- What is said about a notation that is not known. -/
def unknownDialect (name : String) : String :=
  "Unknown regular expression type " ++ quoted name ++ "; valid types are 'findutils-default', " ++
    "'ed', 'emacs', 'gnu-awk', 'grep', 'posix-awk', 'awk', 'posix-basic', 'posix-egrep', 'egrep', "
    ++ "'posix-extended', 'posix-minimal-basic', 'sed'."

/-- The test for a number of an owner. -/
def ownerTest (number : Nat) (v : Visit) : Bool := (ownerOf v.node).2 = number

/-! ## Actions -/

/-- Opens a file for output. -/
def outputOf (path : String) : Planning Nat := do
  match ← now (openPath path .replace) with
  | .ok number => return number
  | .error reason => fault (quoted path ++ ": " ++ reason.words)

/-- The words of a command up to its end: the words, whether paths are gathered for it, and what
    follows. -/
def commandWords (plus : Bool) :
    List String → List String → Option (List String × Bool × List String)
  | _, [] => none
  | words, ";" :: rest => some (words.reverse, false, rest)
  | words, word :: rest =>
      if plus && word = "+" && words.head?.any (fun w => 1 < (w.splitOn "\x7b\x7d").length) then
        some (words.reverse, true, rest)
      else commandWords plus (word :: words) rest

/-- Reads a command to be run. -/
def commandAction (name : String) (rest : List String) (inDirectory asks : Bool) :
    Planning (List String) := do
  match commandWords (!asks) [] rest with
  | none => fault ("missing argument to " ++ ticked name)
  | some ([], _, _) => invalid name ";"
  | some (words, false, rest) =>
      addAction name (.run words inDirectory asks)
      return rest
  | some (words, true, rest) =>
      let marks := words.filter fun w => 1 < (w.splitOn "\x7b\x7d").length
      if 1 < marks.length then
        fault ("Only one instance of \x7b\x7d is supported with -exec" ++
          (if inDirectory then "dir" else "") ++ " ... +")
      let index := (← get).gatherings.length
      modify fun p =>
        { p with gatherings := p.gatherings ++ [⟨words.dropLast, [], inDirectory⟩] }
      addAction name (.gather index inDirectory)
      return rest

/-- Reads a format. -/
def formatAction (self name value : String) (output : Option Nat) : Planning Unit := do
  let (warnings, fatal) := complaints (value.length + 1) value.toList
  for text in warnings do sayNow self text
  match fatal with
  | some text => fault text
  | none => addAction name (.format value.toList output)

/-! ## Words -/

/-- The test that a word without arguments is. -/
def plainTest? (name : String) : Option (Visit → Bool) :=
  match name with
  | "-true" => some fun _ => true
  | "-false" => some fun _ => false
  | "-empty" => some fun v =>
      match v.node.content with
      | .data bytes => bytes.isEmpty
      | .directory entries _ => entries.isEmpty
      | _ => false
  | "-executable" => some fun v => (v.beyond.toOption.getD v.node).allows .run
  | "-readable" => some fun v => (v.beyond.toOption.getD v.node).allows .read
  | "-writable" => some fun v => (v.beyond.toOption.getD v.node).allows .write
  | "-nouser" | "-nogroup" => some fun _ => false
  | _ => none

/-- The measure of an argument. -/
def measureOf (name value : String) : Planning Measure := do
  match Measure.ofText? value with
  | some m => return m
  | none => invalid name value

/-- Whether a word has an argument and no special form. -/
def hasArgument (name : String) : Bool :=
  ["-amin", "-anewer", "-atime", "-cmin", "-cnewer", "-ctime", "-fprint", "-fprint0", "-fls",
    "-fstype", "-gid", "-group", "-ilname", "-iname", "-inum", "-ipath", "-iregex", "-iwholename",
    "-links", "-lname", "-maxdepth", "-mindepth", "-mmin", "-mtime", "-name", "-newer", "-path",
    "-perm", "-printf", "-regex", "-regextype", "-samefile", "-size", "-type", "-uid", "-used",
    "-user", "-wholename", "-xtype", "-context", "-files0-from"].contains name

/-- A depth. -/
def depthOf (name value : String) : Planning Nat := do
  if value ≠ "" && value.toList.all Char.isDigit then return Nat.ofDigitChars 10 value.toList 0
  else
    fault ("Expected a positive decimal integer argument to " ++ name ++ ", but got " ++
      quoted value)

/-- Reads a word with its argument. -/
def readWithArgument (self name value : String) : Planning Unit := do
  let caseless := name.startsWith "-i"
  let pattern := patternOf caseless value
  match name with
  | "-name" | "-iname" => addTest name fun v => fitsText caseless pattern v.name
  | "-path" | "-ipath" | "-wholename" | "-iwholename" =>
      addTest name fun v => fitsText caseless pattern v.path
  | "-lname" | "-ilname" =>
      addTest name fun v => v.node.target?.any fun target => fitsText caseless pattern target
  | "-regex" | "-iregex" => addTest name (← regexTest caseless value)
  | "-regextype" =>
      match dialectOf? value with
      | some dialect => modify fun p => { p with dialect }
      | none => fault (unknownDialect value)
      addTest name fun _ => true
  | "-type" =>
      let kinds ← kindsOf name (value.length + 1) [] value.toList
      if kinds.isEmpty then fault "Arguments to -type should contain at least one letter"
      addTest name fun v => kinds.contains (kindOf v.node)
  | "-xtype" =>
      let kinds ← kindsOf name (value.length + 1) [] value.toList
      if kinds.isEmpty then fault "Arguments to -xtype should contain at least one letter"
      let swapped := (← get).following = .always
      addTest name fun v => kinds.contains (kindOf (if swapped && v.node.isLink then v.node
        else v.beyond.toOption.getD v.node))
  | "-size" => addTest name (← sizeTest value)
  | "-perm" => addTest name (← modeTest value)
  | "-amin" => addTest name (← ageTest name value 60 Node.used)
  | "-cmin" | "-mmin" => addTest name (← ageTest name value 60 Node.changed)
  | "-atime" => addTest name (← ageTest name value 86400 Node.used)
  | "-ctime" | "-mtime" => addTest name (← ageTest name value 86400 Node.changed)
  | "-newer" | "-cnewer" =>
      let (_, node) ← nodeOfArgument value
      addTest name (newerTest 'm' node.changed)
  | "-anewer" =>
      let (_, node) ← nodeOfArgument value
      addTest name (newerTest 'a' node.changed)
  | "-samefile" =>
      let (i, _) ← nodeOfArgument value
      addTest name fun v => v.number = i
  | "-inum" =>
      let m ← measureOf name value
      addTest name fun v => m.fits v.number
  | "-links" =>
      let m ← measureOf name value
      addTest name fun v => m.fits (v.files.nameCount v.number)
  | "-uid" | "-gid" =>
      let m ← measureOf name value
      addTest name fun v => m.fits (ownerOf v.node).2
  | "-user" =>
      match Account.number? value with
      | some number => addTest name (ownerTest number)
      | none => fault (quoted value ++ " is not the name of a known user")
  | "-group" =>
      match Account.groupNumber? value with
      | some number => addTest name (ownerTest number)
      | none => fault (quoted value ++ " is not the name of an existing group")
  | "-used" =>
      let _ ← measureOf name value
      addTest name fun _ => false
  | "-maxdepth" =>
      let most ← depthOf name value
      modify fun p => { p with most := some most }
      addTest name fun _ => true
  | "-mindepth" =>
      let least ← depthOf name value
      modify fun p => { p with least }
      addTest name fun _ => true
  | "-fprint" => addAction name (.print "\n" (some (← outputOf value)))
  | "-fprint0" => addAction name (.print "\x00" (some (← outputOf value)))
  | "-fls" => addAction name (.list (some (← outputOf value)))
  | "-printf" => formatAction self name value none
  | _ => addTest name fun _ => false

/-- Reads what a word asks for that compares moments, as its last two letters say. -/
def readNewer (name value : String) : Planning Unit := do
  let p ← get
  match name.toList.drop 6 with
  | [x, 't'] =>
      match Calendar.momentOfText? value p.now p.zone with
      | some moment => addTest name (newerTest x moment)
      | none =>
          fault ("I cannot figure out how to interpret " ++ quoted value ++ " as a date or time")
  | [x, y] =>
      let (_, node) ← nodeOfArgument value
      addTest name (newerTest x (if y = 'a' then node.used else node.changed))
  | _ => fault ("unknown predicate " ++ ticked name)

/-- Whether a word compares moments, as its last two letters say. -/
def isNewerWord (name : String) : Bool :=
  match name.toList.drop 6 with
  | [x, y] => name.startsWith "-newer" && "acm".contains x && "acmt".contains y
  | _ => false

/-- Whether a word belongs to an expression. -/
def isExpression (word : String) (leading : Bool) : Bool :=
  match word.toList with
  | ['-'] => false
  | '-' :: _ => true
  | [')'] | [','] => !leading
  | ['('] | ['!'] => true
  | _ => false

/-- Reads the words of an expression. -/
def readWords (self : String) : Nat → List String → Planning Unit
  | 0, _ | _, [] => return
  | n + 1, word :: rest => do
      if !isExpression word false then
        sayNow self ("paths must precede expression: " ++ ticked word)
        let last := ((← get).parts.getLast?).map Prod.snd
        let there := (← now (nodeAt word)).toOption.isSome
        match last, there with
        | some name, true =>
            fault ("possible unquoted pattern after predicate " ++ ticked name ++ "?")
        | _, _ => throw { lines := [], hint := false }
      match word with
      | "(" => addPart word .opening
      | ")" => addPart word .closing
      | "!" | "-not" => addPart word .negation
      | "-a" | "-and" => addPart word .conjunction
      | "-o" | "-or" => addPart word .disjunction
      | "," => addPart word .comma
      | "-print" => addAction word (.print "\n" none)
      | "-print0" => addAction word (.print "\x00" none)
      | "-ls" => addAction word (.list none)
      | "-delete" =>
          modify fun p => { p with childrenFirst := true }
          addAction word .delete
      | "-prune" => addPart word (.goal (.act .prune))
      | "-quit" => addPart word (.goal (.act .quit))
      | "-depth" | "-d" =>
          modify fun p => { p with childrenFirst := true }
          addTest word fun _ => true
      | "-daystart" =>
          modify fun p => { p with fromMidnight := true }
          addTest word fun _ => true
      | "-follow" =>
          modify fun p => { p with following := .always }
          addTest word fun _ => true
      | "-xdev" | "-mount" | "-noleaf" | "-warn" | "-nowarn" | "-ignore_readdir_race"
      | "-noignore_readdir_race" | "-show-control-chars" => addTest word fun _ => true
      | _ =>
          if ["-exec", "-execdir", "-ok", "-okdir"].contains word then
            let rest ← commandAction word rest (word.endsWith "dir") (word.startsWith "-ok")
            return ← readWords self n rest
          else if word = "-fprintf" then
            let (path, rest) ← argument word rest
            let (value, rest) ← argument word rest
            formatAction self word value (some (← outputOf path))
            return ← readWords self n rest
          else if isNewerWord word then
            match rest with
            | [] => fault ("invalid predicate " ++ ticked word)
            | value :: rest =>
                readNewer word value
                return ← readWords self n rest
          else
            match plainTest? word with
            | some test => addTest word test
            | none =>
                if hasArgument word then
                  let (value, rest) ← argument word rest
                  readWithArgument self word value
                  return ← readWords self n rest
                else if word.startsWith "-newer" && word.length = 8 then
                  fault ("invalid predicate " ++ ticked word)
                else fault ("unknown predicate " ++ ticked word)
      readWords self n rest

/-! ## Trees -/

/-- How close an operator binds. -/
def bindingOf : Part → Nat
  | .comma => 1
  | .disjunction => 2
  | .conjunction => 3
  | _ => 0

/-- The parts with an "and" wherever one is meant. -/
def withConjunctions : List (Part × String) → List (Part × String)
  | (a, x) :: (b, y) :: rest =>
      let ends := match a with
        | .goal _ | .closing => true
        | _ => false
      let starts := match b with
        | .goal _ | .negation | .opening => true
        | _ => false
      if ends && starts then (a, x) :: (.conjunction, "-a") :: withConjunctions ((b, y) :: rest)
      else (a, x) :: withConjunctions ((b, y) :: rest)
  | parts => parts

/-- What follows a goal between parentheses. -/
def closed (g : Goal) : List (Part × String) → Except String (Goal × List (Part × String))
  | (.closing, _) :: rest => .ok (g, rest)
  | _ =>
      .error "invalid expression; I was expecting to find a ')' somewhere but did not see one."

mutual

/-- The goal in front, with all operators behind it that bind closer than a level. -/
def goalAbove : Nat → (level : Nat) → (behind : String × Bool) → List (Part × String) →
    Except String (Goal × List (Part × String))
  | 0, _, _, _ => .error "invalid expression"
  | n + 1, level, (last, operator), parts => do
      let (g, rest) ← match parts with
        | [] => .error (if last = "(" then
            "invalid expression; expected to find a ')' but didn't see one. " ++
              "Perhaps you need an extra predicate after '('"
            else "expected an expression after '" ++ last ++ "'")
        | (.goal g, _) :: rest => pure (g, rest)
        | (.negation, name) :: rest => do
            let (g, rest) ← goalAbove n 3 (name, true) rest
            pure (Goal.neither g, rest)
        | (.closing, _) :: _ =>
            .error (if operator then "expected an expression between '" ++ last ++ "' and ')'"
              else "invalid expression; you have too many ')'")
        | (.opening, _) :: (.closing, _) :: _ =>
            .error "invalid expression; empty parentheses are not allowed."
        | (.opening, _) :: rest => do
            let (g, rest) ← goalAbove n 0 ("(", false) rest
            closed g rest
        | (_, name) :: _ =>
            .error ("invalid expression; you have used a binary operator '" ++ name ++
              "' with nothing before it.")
      operatorsAbove n level g rest

/-- A goal with all operators behind it that bind closer than a level. -/
def operatorsAbove : Nat → (level : Nat) → Goal → List (Part × String) →
    Except String (Goal × List (Part × String))
  | 0, _, g, parts => .ok (g, parts)
  | n + 1, level, g, parts => do
      match parts with
      | (part, name) :: rest =>
          let binding := bindingOf part
          if level < binding then
            let (h, rest) ← goalAbove n binding (name, true) rest
            operatorsAbove n level (match part with
              | .comma => .list g h
              | .disjunction => .either g h
              | _ => .both g h) rest
          else return (g, parts)
      | [] => return (g, [])

end

/-- The goal that parts come to. -/
def goalOf (parts : List (Part × String)) : Except String Goal := do
  match parts with
  | [] => return .test fun _ => true
  | parts =>
      let (g, rest) ← goalAbove (4 * parts.length + 4) 0 ("", false) (withConjunctions parts)
      if rest.isEmpty then return g else .error "you have too many ')'"

end WasmBinary.Machine.Script.Tool.Find
