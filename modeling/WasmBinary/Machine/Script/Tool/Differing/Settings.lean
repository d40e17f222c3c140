/-
  How differences are looked for, and how they are shown.

  1. **Comparing** — blanks, the case of letters, empty lines, and lines of a form may be left out
     of account.

  2. **Styles** — only one style can be asked for.  Two of them show lines around the differences.

  3. **Trees** — directories are gone through, perhaps with those in them.
-/
import WasmBinary.Machine.Script.Pattern
import WasmBinary.Machine.Script.Regex.Matching
import WasmBinary.Machine.Script.Regex.Reading
import WasmBinary.Machine.Script.Tool.Basic

namespace WasmBinary.Machine.Script.Tool.Differing

/-- How differences are shown. -/
inductive Style
  | normal
  | context
  | unified
  /-- Commands that an editor takes, the last ones first. -/
  | script
  /-- Commands in the order of the lines. -/
  | forward
  /-- Commands that tell how many lines they are about. -/
  | counted
  /-- Both files side by side. -/
  | columns
  /-- Both files in one, with conditions that a name decides. -/
  | merged (name : String)
deriving DecidableEq, Repr, Inhabited

/-- Which blanks count. -/
inductive Blanks
  | all
  /-- Tabs are as good as the blanks up to the next stop. -/
  | expanded
  | notTrailing
  | notTrailingExpanded
  /-- Some blanks are as good as one, and those at the end do not count. -/
  | asOne
  | none
deriving DecidableEq, Repr, Inhabited

/-- How differences are looked for, and how they are shown. -/
structure Settings where
  self : String := ""
  /-- The options as they were given. -/
  words : List String := []
  style : Option Style := none
  /-- How many lines are shown around differences. -/
  context : Nat := 0
  explicit : Bool := false
  /-- The number that an option is by itself. -/
  digits : Option Nat := none
  horizon : Nat := 0
  /-- Whether it is just told which files differ, and which are the same. -/
  brief : Bool := false
  reports : Bool := false
  recursive : Bool := false
  /-- Whether files that are missing count as empty, in both trees, or only in the first one. -/
  fillsIn : Bool := false
  fillsFirst : Bool := false
  labels : List String := []
  folded : Bool := false
  blanks : Blanks := .all
  /-- Whether differences of empty lines do not count, and which others do not. -/
  skipsEmpty : Bool := false
  skipped : List Regex := []
  asText : Bool := false
  minimal : Bool := false
  stripsReturns : Bool := false
  /-- Whether tabs are shown as blanks, and whether one stands in front of lines. -/
  expandsTabs : Bool := false
  initialTab : Bool := false
  tabSize : Nat := 8
  width : Nat := 130
  /-- Which lines are headings that are shown with the differences below them. -/
  heading : Option Regex := none
  showsFunctions : Bool := false
  excluded : List String := []
  onlyLeft : Bool := false
  hidesCommon : Bool := false
  bareBlank : Bool := false
  follows : Bool := true
  /-- The file that all operands are compared with, in front of them or behind. -/
  origin : Option String := none
  target : Option String := none

namespace Settings

/-- The options, as far as they are known. -/
def choices : String :=
  " ".intercalate
    [ "--binary q,brief --changed-group-format= --color=? --context=? e,ed x,exclude=",
      "X,exclude-from= t,expand-tabs f,forward-ed --from-file= --help --horizon-lines=",
      "D,ifdef= w,ignore-all-space B,ignore-blank-lines i,ignore-case --ignore-file-name-case",
      "I,ignore-matching-lines= b,ignore-space-change E,ignore-tab-expansion",
      "Z,ignore-trailing-space --inhibit-hunk-merge T,initial-tab L,label= --left-column",
      "--line-format= d,minimal N,new-file --new-group-format= --new-line-format=",
      "--no-dereference --no-ignore-file-name-case --normal --old-group-format=",
      "--old-line-format= l,paginate --palette= n,rcs r,recursive s,report-identical-files",
      "--sdiff-merge-assist p,show-c-function F,show-function-line= y,side-by-side",
      "H,speed-large-files S,starting-file= --strip-trailing-cr --suppress-blank-empty",
      "--suppress-common-lines --tabsize= a,text --to-file= --unchanged-group-format=",
      "--unchanged-line-format= P,unidirectional-new-file --unified=? --version W,width=",
      "---no-directory ---presume-output-tty 0 1 2 3 4 5 6 7 8 9 c C= h u U= v" ]

/-- Asks for a style, which has to be the only one. -/
def withStyle (s : Settings) (style : Style) : Except Misuse Settings :=
  match s.style with
  | none => .ok { s with style := some style }
  | some other =>
      if other = style then .ok s else .error (.hinted "conflicting output style options")

/-- The number that a text is, which may be followed by nothing. -/
def amount (what text : String) : Except Misuse Nat :=
  match text.toNat? with
  | some n => .ok n
  | none => .error (.hinted ("invalid " ++ what ++ " '" ++ text ++ "'"))

/-- Asks for a style with lines around the differences. -/
def around (s : Settings) (style : Style) (option : Given) : Except Misuse Settings := do
  let count ← if option.valued then amount "context length" option.value else pure 3
  let s ← s.withStyle style
  return { s with context := max s.context count, explicit := option.valued || s.explicit }

/-- The expression that a text is. -/
def expression (text : String) : Except Misuse Regex :=
  match Regex.parse .basic text with
  | .ok (r, _) => .ok r
  | .error fault => .error (.plain (text ++ ": " ++ fault))

/-- Leaves some blanks out of account, if none are yet that matter more. -/
def withoutBlanks (s : Settings) (b : Blanks) : Settings :=
  let rank : Blanks → Nat
    | .all => 0
    | .expanded => 1
    | .notTrailing => 2
    | .notTrailingExpanded => 3
    | .asOne => 4
    | .none => 5
  let b := match s.blanks, b with
    | .expanded, .notTrailing | .notTrailing, .expanded => .notTrailingExpanded
    | _, b => b
  if rank s.blanks < rank b then { s with blanks := b } else s

/-- Takes an option into account. -/
def add (s : Settings) (option : Given) : Except Misuse Settings :=
  match option.key with
  | "a" => .ok { s with asText := true }
  | "b" => .ok (s.withoutBlanks .asOne)
  | "B" => .ok { s with skipsEmpty := true }
  | "c" | "C" | "context" => s.around .context option
  | "u" | "U" | "unified" => s.around .unified option
  | "d" => .ok { s with minimal := true }
  | "D" => s.withStyle (.merged option.value)
  | "e" => s.withStyle .script
  | "E" => .ok (s.withoutBlanks .expanded)
  | "f" => s.withStyle .forward
  | "F" => do return { s with heading := some (← expression option.value) }
  | "i" => .ok { s with folded := true }
  | "I" => do return { s with skipped := s.skipped ++ [← expression option.value] }
  | "L" =>
      if s.labels.length < 2 then .ok { s with labels := s.labels ++ [option.value] }
      else .error (.plain "too many file label options")
  | "n" => s.withStyle .counted
  | "N" => .ok { s with fillsIn := true }
  | "P" => .ok { s with fillsFirst := true }
  | "p" => do
      return { s with showsFunctions := true, heading := some (← expression "^[[:alpha:]$_]") }
  | "q" => .ok { s with brief := true }
  | "r" => .ok { s with recursive := true }
  | "s" => .ok { s with reports := true }
  | "t" => .ok { s with expandsTabs := true }
  | "T" => .ok { s with initialTab := true }
  | "w" => .ok (s.withoutBlanks .none)
  | "W" => do
      let n ← amount "width" option.value
      if n = 0 then .error (.hinted ("invalid width '" ++ option.value ++ "'"))
      else return { s with width := n }
  | "x" => .ok { s with excluded := s.excluded ++ [option.value] }
  | "y" => s.withStyle .columns
  | "Z" => .ok (s.withoutBlanks .notTrailing)
  | "normal" => s.withStyle .normal
  | "left-column" => .ok { s with onlyLeft := true }
  | "suppress-common-lines" => .ok { s with hidesCommon := true }
  | "suppress-blank-empty" => .ok { s with bareBlank := true }
  | "strip-trailing-cr" => .ok { s with stripsReturns := true }
  | "no-dereference" => .ok { s with follows := false }
  | "from-file" => .ok { s with origin := some option.value }
  | "to-file" => .ok { s with target := some option.value }
  | "tabsize" => do return { s with tabSize := max 1 (← amount "tabsize" option.value) }
  | "horizon-lines" => do return { s with horizon := ← amount "horizon length" option.value }
  | key =>
      match key.toNat? with
      | some digit => .ok { s with digits := some (10 * s.digits.getD 0 + digit) }
      | none => .ok s

/-- The settings when all options are known. -/
def complete (s : Settings) : Settings :=
  let s := match s.style with
    | some _ => s
    | none =>
        if s.showsFunctions then { s with style := some .context, context := 3 }
        else { s with style := some .normal }
  let around := s.style = some .context || s.style = some .unified
  let s := match s.digits with
    | some n =>
        if around && (s.context < n || !s.explicit) then { s with context := n } else s
    | none => s
  { s with horizon := max s.horizon s.context }

/-! ## Lines -/

/-- A line without the blanks at its end. -/
def trimmed (cs : List Char) : List Char := (cs.reverse.dropWhile Numeral.isBlank).reverse

/-- A line with blanks for its tabs, from a column on. -/
def untabbed (size : Nat) : Nat → List Char → List Char
  | _, [] => []
  | column, '\t' :: rest =>
      let count := size - column % size
      List.replicate count ' ' ++ untabbed size (column + count) rest
  | column, c :: rest => c :: untabbed size (column + 1) rest

/-- A line with one blank for each run of them, except for those at its end. -/
def singleBlanks (cs : List Char) : List Char :=
  (trimmed cs).foldr (fun c done =>
    if !Numeral.isBlank c then c :: done
    else if done.head? = some ' ' then done else ' ' :: done) []

/-- What counts of a line. -/
def keyOf (s : Settings) (line : String) : String :=
  let cs := line.toList
  let cs := match s.blanks with
    | .all => cs
    | .expanded => untabbed s.tabSize 0 cs
    | .notTrailing => trimmed cs
    | .notTrailingExpanded => untabbed s.tabSize 0 (trimmed cs)
    | .asOne => singleBlanks cs
    | .none => cs.filter fun c => !Numeral.isBlank c
  String.ofList (if s.folded then cs.map Char.toLower else cs)

/-- Whether it does not matter that a last line has no end. -/
def endless (s : Settings) : Bool :=
  [Blanks.notTrailing, .notTrailingExpanded, .asOne, .none].contains s.blanks ||
    s.style = some .script || s.style = some .forward

/-- Whether a line that differs does not count. -/
def skips (s : Settings) (line : String) : Bool :=
  (s.skipsEmpty && (s.keyOf line = "")) ||
    s.skipped.any fun r => (Regex.Searcher.of { text := line.toList.toArray } r).found

end Settings

end WasmBinary.Machine.Script.Tool.Differing
