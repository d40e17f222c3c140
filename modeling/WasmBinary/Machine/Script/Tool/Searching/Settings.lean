/-
  How texts are searched.

  1. **Patterns** are written in one of some notations.  They are the values of options, the lines
     of files, or the first operand.

  2. **Selection** — lines are selected that hold a match, or those that hold none, up to a number
     of them.

  3. **Output** — the lines themselves with what surrounds them, only what has matched, how many
     they are, or only the names of the files that they are in.

  4. **Files** — what becomes of directories and devices, and which names are left out.

  5. **Colors** are named by letters for what they belong to.
-/
import WasmBinary.Machine.Script.Pattern
import WasmBinary.Machine.Script.Tool.Basic

namespace WasmBinary.Machine.Script.Tool.Searching

/-- How patterns are written. -/
inductive PatternKind
  | basic
  | extended
  | fixed
  | rich
deriving DecidableEq, Repr

/-- Where patterns come from. -/
inductive PatternSource
  | text (patterns : String)
  | file (path : String)

/-- What becomes of files that are no text. -/
inductive BinaryRule
  | asBinary
  | asText
  | unmatched
deriving DecidableEq, Repr

/-- What becomes of directories. -/
inductive FolderRule
  | read
  | recurse
  | skip
deriving DecidableEq, Repr

/-- What becomes of devices and queues. -/
inductive DeviceRule
  | read
  | readOperands
  | skip
deriving DecidableEq, Repr

/-- A pattern that leaves names out, or lets only these in. -/
structure NameRule where
  lets : Bool
  pattern : String

namespace NameRule

/-- Whether the pattern of a rule fits a name; among operands also what is behind one of its
    slashes. -/
def fits (r : NameRule) (operand : Bool) (name : String) : Bool :=
  let pattern := Pattern.ofText true r.pattern
  let cs := name.toList
  Pattern.fits pattern cs || operand && (List.range cs.length).any fun i =>
    cs[i]? = some '/' && cs[i + 1]?.any (· ≠ '/') && Pattern.fits pattern (cs.drop (i + 1))

/-- Whether rules leave a name out: the last rule that fits decides, and if there is none, the first
    one of them all. -/
def excludes (rules : List NameRule) (operand : Bool) (name : String) : Bool :=
  match rules.reverse.find? fun r => r.fits operand name with
  | some r => !r.lets
  | none => rules.head?.any NameRule.lets

end NameRule

/-- The colors of what is written. -/
structure Palette where
  selected : String := "01;31"
  around : String := "01;31"
  line : String := ""
  contextLine : String := ""
  name : String := "35"
  number : String := "32"
  offset : String := "32"
  mark : String := "36"
  /-- Whether the colors of lines change their places if lines without a match are wanted. -/
  swaps : Bool := false
  /-- Whether the rest of a line is cleared. -/
  clears : Bool := true

namespace Palette

/-- Changes a palette as a word asks for. -/
def change (p : Palette) (word : String) : Palette :=
  match word.splitOn "=" with
  | ["mt", color] => { p with selected := color, around := color }
  | ["ms", color] => { p with selected := color }
  | ["mc", color] => { p with around := color }
  | ["sl", color] => { p with line := color }
  | ["cx", color] => { p with contextLine := color }
  | ["fn", color] => { p with name := color }
  | ["ln", color] => { p with number := color }
  | ["bn", color] => { p with offset := color }
  | ["se", color] => { p with mark := color }
  | ["rv"] => { p with swaps := true }
  | ["ne"] => { p with clears := false }
  | _ => p

/-- Whether a word is what a palette can be changed by. -/
def accepts (word : String) : Bool :=
  match word.splitOn "=" with
  | [_] => true
  | [_, color] => color.toList.all fun c => c.isDigit || c = ';'
  | _ => false

/-- Changes a palette as a text asks for.  What is behind a mistake in it counts for nothing. -/
def changeAll (p : Palette) (text : String) : Palette :=
  ((text.splitOn ":").takeWhile accepts).foldl change p

/-- A text behind the start of a color, if there is one. -/
def paintOpen (p : Palette) (color text : String) : String :=
  if color = "" then text else "\x1b[" ++ color ++ (if p.clears then "m\x1b[K" else "m") ++ text

/-- A text in a color, if there is one. -/
def paint (p : Palette) (color text : String) : String :=
  if color = "" then text
  else p.paintOpen color text ++ if p.clears then "\x1b[m\x1b[K" else "\x1b[m"

end Palette

/-- How texts are searched. -/
structure Settings where
  /-- The name of the notation of the patterns. -/
  kind : Option String := none
  /-- The latest source comes first. -/
  sources : List PatternSource := []
  caseless : Bool := false
  words : Bool := false
  wholeLines : Bool := false
  silent : Bool := false
  inverted : Bool := false
  most : Option Nat := none
  offsets : Bool := false
  numbers : Bool := false
  named : Option Bool := none
  label : String := "(standard input)"
  onlyMatches : Bool := false
  quiet : Bool := false
  binary : BinaryRule := .asBinary
  folders : FolderRule := .read
  follows : Bool := false
  devices : DeviceRule := .readOperands
  /-- How many lines are selected is told instead of the lines. -/
  counts : Bool := false
  /-- The names of files are told that have a line selected, or of those that have none. -/
  lists : Option Bool := none
  aligned : Bool := false
  zeroNames : Bool := false
  ending : Char := '\n'
  before : Option Nat := none
  after : Option Nat := none
  context : Option Nat := none
  colored : Bool := false
  groupMark : Option String := some "--"
  names : List NameRule := []
  folderNames : List NameRule := []
  exclusions : List String := []
  described : Option String := none

namespace Settings

/-- A number without a multiplier: a number too large is the largest one. -/
def number? (text : String) : Option Int :=
  match text.toList.dropWhile isWhite with
  | '-' :: digits => if isNumber digits then some (-(valueOf digits : Int)) else none
  | '+' :: digits => if isNumber digits then some (valueOf digits) else none
  | digits => if isNumber digits then some (valueOf digits) else none
where
  isNumber (cs : List Char) : Bool := !cs.isEmpty && cs.all Char.isDigit
  valueOf (cs : List Char) : Nat := cs.foldl (fun n c => 10 * n + (c.toNat - 48)) 0

/-- How many lines a value asks for around a selected one. -/
def contextOf (text : String) : Except Misuse Nat :=
  match number? text with
  | some (.ofNat n) => .ok n
  | _ => .error (.plain (text ++ ": invalid context length argument"))

/-- Takes a notation for the patterns, if no other one was asked for. -/
def withKind (s : Settings) (kind : String) : Except Misuse Settings :=
  if s.kind.all (· = kind) then .ok { s with kind := some kind }
  else .error (.plain "conflicting matchers specified")

/-- The notation that a name means. -/
def kindOf? : String → Option PatternKind
  | "grep" => some .basic
  | "egrep" | "awk" | "gawk" | "posixawk" => some .extended
  | "fgrep" => some .fixed
  | "perl" => some .rich
  | _ => none

/-- Adds a rule for names. -/
def withRule (s : Settings) (lets : Bool) (pattern : String) : Settings :=
  { s with names := s.names ++ [{ lets, pattern }] }

/-- Whether colors are wanted, by a word. -/
def colorOf? (word : String) : Option Bool :=
  match word.toLower with
  | "always" | "yes" | "force" => some true
  | "never" | "no" | "none" | "auto" | "tty" | "if-tty" => some false
  | _ => none

/-- What an option adds. -/
def step (s : Settings) (option : Given) : Except Misuse Settings := do
  let value := option.value
  match option.key with
  | "E" => s.withKind "egrep"
  | "F" => s.withKind "fgrep"
  | "G" => s.withKind "grep"
  | "P" => s.withKind "perl"
  | "X" =>
      if (kindOf? value).isSome then s.withKind value
      else throw (.plain ("invalid matcher " ++ value))
  | "e" => return { s with sources := .text value :: s.sources }
  | "f" => return { s with sources := .file value :: s.sources }
  | "i" | "y" => return { s with caseless := true }
  | "no-ignore-case" => return { s with caseless := false }
  | "w" => return { s with words := true }
  | "x" => return { s with wholeLines := true }
  | "s" => return { s with silent := true }
  | "v" => return { s with inverted := true }
  | "m" =>
      match number? value with
      | some (.ofNat n) => return { s with most := some n }
      | some _ => return { s with most := none }
      | none => throw (.plain "invalid max count")
  | "b" => return { s with offsets := true }
  | "n" => return { s with numbers := true }
  | "H" => return { s with named := some true }
  | "h" => return { s with named := some false }
  | "label" => return { s with label := value }
  | "o" => return { s with onlyMatches := true }
  | "q" => return { s with quiet := true }
  | "a" => return { s with binary := .asText }
  | "I" => return { s with binary := .unmatched }
  | "binary-files" =>
      match value with
      | "binary" => return { s with binary := .asBinary }
      | "text" => return { s with binary := .asText }
      | "without-match" => return { s with binary := .unmatched }
      | _ => throw (.plain "unknown binary-files type")
  | "d" =>
      match choiceOf ["read", "recurse", "skip"] value "--directories" with
      | .ok "read" => return { s with folders := .read }
      | .ok "recurse" => return { s with folders := .recurse }
      | .ok _ => return { s with folders := .skip }
      | .error m => throw { m with status := some 1 }
  | "D" =>
      match value with
      | "read" => return { s with devices := .read }
      | "skip" => return { s with devices := .skip }
      | _ => throw (.plain "unknown devices method")
  | "r" => return { s with folders := .recurse, follows := false }
  | "R" => return { s with folders := .recurse, follows := true }
  | "include" => return s.withRule true value
  | "exclude" => return s.withRule false value
  | "exclude-from" => return { s with exclusions := s.exclusions ++ [value] }
  | "exclude-dir" =>
      let pattern := String.ofList (value.toList.reverse.dropWhile (· = '/')).reverse
      return { s with folderNames := s.folderNames ++ [{ lets := false, pattern }] }
  | "l" => return { s with lists := some true }
  | "L" => return { s with lists := some false }
  | "c" => return { s with counts := true }
  | "V" => return { s with described := some "version" }
  | "T" => return { s with aligned := true }
  | "Z" => return { s with zeroNames := true }
  | "z" => return { s with ending := '\x00' }
  | "A" => return { s with after := some (← contextOf value) }
  | "B" => return { s with before := some (← contextOf value) }
  | "C" => return { s with context := some (← contextOf value) }
  | "color" =>
      match if option.valued then colorOf? value else some false with
      | some colored => return { s with colored }
      | none => return { s with described := some "help" }
  | "group-separator" => return { s with groupMark := some value }
  | "no-group-separator" => return { s with groupMark := none }
  | key =>
      match key.toNat? with
      | some digit =>
          let front := if option.joined then s.context.getD 0 else 0
          return { s with context := some (10 * front + digit) }
      | none => return s

/-- The options that there are. -/
def choices : String :=
  "G,basic-regexp E,extended-regexp F,fixed-regexp F,fixed-strings P,perl-regexp " ++
    "A,after-context= B,before-context= --binary-files= b,byte-offset C,context= " ++
    "--color,colour=? c,count D,devices= d,directories= --exclude= --exclude-from= " ++
    "--exclude-dir= f,file= " ++
    "l,files-with-matches L,files-without-match --group-separator= --help --include= " ++
    "i,ignore-case --no-ignore-case T,initial-tab --label= --line-buffered n,line-number " ++
    "x,line-regexp m,max-count= h,no-filename --no-group-separator s,no-messages Z,null " ++
    "z,null-data o,only-matching q,quiet r,recursive R,dereference-recursive e,regexp= " ++
    "v,invert-match q,silent a,text U,binary u,unix-byte-offsets V,version H,with-filename " ++
    "w,word-regexp X= y I 0 1 2 3 4 5 6 7 8 9"

/-- Whether the first selected line of a file decides. -/
def stopsAtFirst (s : Settings) : Bool := s.quiet || s.lists.isSome

/-- Whether no lines are written. -/
def hidesLines (s : Settings) : Bool := s.stopsAtFirst || s.counts

/-- How many lines are written in front of a selected one. -/
def linesBefore (s : Settings) : Option Nat := s.before.orElse fun _ => s.context

/-- How many lines are written behind a selected one. -/
def linesAfter (s : Settings) : Option Nat := s.after.orElse fun _ => s.context

end Settings

end WasmBinary.Machine.Script.Tool.Searching
