/-
  How pages are to look.

  1. **Lines** — a page has so many lines.  Some of them are its head and its foot, unless these are
     left out, or there is no room for anything else.

  2. **Columns** stand side by side, each with its share of the width.  They are filled one after
     the other, or line by line, or each from a file of its own.  What separates them may take the
     place of a fixed width.

  3. **Tabs** of the input may become blanks, and blanks of the output tabs.
-/
import WasmBinary.Machine.Script.Tool.Basic

namespace WasmBinary.Machine.Script.Tool.Pages

/-- A tab stands for blanks up to the next multiple of a width. -/
structure Tabs where
  sign : Char := '\t'
  width : Nat := 8

/-- How many columns a tab takes from a column on. -/
def Tabs.reach (t : Tabs) (column : Int) : Int := t.width - Int.tmod column t.width

/-- What options say about pages. -/
structure Settings where
  firstPage : Nat := 0
  lastPage : Option Nat := none
  /-- The number of columns, as letters of the command line tell it. -/
  digits : String := ""
  /-- Whether the last letter was a part of that number. -/
  counting : Bool := false
  columns : Option Nat := none
  across : Bool := false
  merges : Bool := false
  joins : Bool := false
  doubles : Bool := false
  carets : Bool := false
  escapes : Bool := false
  dateFormat : String := "%Y-%m-%d %H:%M"
  heading : Option String := none
  feeds : Bool := false
  /-- Whether there are heads and feet. -/
  framed : Bool := true
  keepsFeeds : Bool := false
  pageLength : Nat := 66
  width : Nat := 72
  /-- Whether the width is the one that only counts for several columns. -/
  oldWidth : Bool := false
  cuts : Bool := false
  margin : Nat := 0
  untabs : Bool := false
  inputTabs : Tabs := {}
  tabs : Bool := false
  outputTabs : Tabs := {}
  numbered : Bool := false
  numberEnd : Char := '\t'
  numberDigits : Nat := 5
  /-- The number of the first line that is printed, where it does not depend on the page. -/
  firstNumber : Option Int := none
  quiet : Bool := false
  /-- What separates columns, if anything was said about that. -/
  separator : Option String := none
  /-- What was said in the old way about what separates columns. -/
  oldSeparator : Option String := none

/-- The options there are. -/
def choices : String :=
  "--pages= --columns= 0 1 2 3 4 5 6 7 8 9 a,across b c,show-control-chars d,double-space " ++
    "D,date-format= e,expand-tabs=? f,form-feed F h,header= i,output-tabs=? J,join-lines " ++
    "l,length= m,merge n,number-lines=? N,first-line-number= o,indent= r,no-file-warnings " ++
    "s,separator=? S,sep-string=? t,omit-header T,omit-pagination v,show-nonprinting w,width= " ++
    "W,page-width="

/-- A number that an option needs. -/
def countOr (what text : String) (least : Nat) : Except Misuse Nat :=
  match text.toList with
  | '-' :: digits =>
      match amountOr what "" (String.ofList digits) with
      | .ok _ => .error (.plain (what ++ ": " ++ cited text ++ AmountFault.outOfRange.ending))
      | .error _ => .error (.plain (what ++ ": " ++ cited text))
  | _ => amountOr what "" text least (Nat.pow 2 31 - 1)

/-- A character and a width, of which either may be missing. -/
def tabsOf (letter : Char) (usual : Tabs) (text : String) : Except Misuse Tabs :=
  let (usual, rest) := match text.toList with
    | c :: rest => if c.isDigit then (usual, c :: rest) else ({ usual with sign := c }, rest)
    | [] => (usual, [])
  if rest.isEmpty then .ok usual
  else
    match amountWithin "" 1 (Nat.pow 2 31 - 1) (String.ofList rest) with
    | .ok width => .ok { usual with width }
    | .error _ =>
        .error (.hinted ("'-" ++ letter.toString ++
          "' extra characters or invalid number in the argument: " ++ cited (String.ofList rest)))

/-- The pages that a text means: the first one, and perhaps the last one behind a colon. -/
def pagesOf (text : String) : Except AmountFault (Option (Nat × Option Nat)) := do
  let digits (cs : List Char) : List Char := cs.takeWhile Char.isDigit
  let cs := text.toList
  let front := digits cs
  let first ← amount "" (String.ofList front)
  match cs.drop front.length with
  | [] => return if first = 0 then none else some (first, none)
  | ':' :: rest =>
      let back := digits rest
      let last ← amount "" (String.ofList back)
      return if first = 0 || last < first || back.length < rest.length then none
        else some (first, some last)
  | _ => return none

/-- Takes an option into account. -/
def Settings.add (s : Settings) (option : Given) : Except Misuse Settings := do
  let value := option.value
  if option.key.all Char.isDigit then
    let digits := if s.counting then s.digits else ""
    return { s with digits := digits ++ option.key, counting := true }
  let s := { s with counting := false }
  match option.key with
  | "pages" =>
      match pagesOf value with
      | .ok (some (first, last)) => return { s with firstPage := first, lastPage := last }
      | .ok none => throw (.plain ("invalid page range " ++ quoted value))
      | .error _ => throw (.plain ("invalid --pages argument " ++ quoted value))
  | "columns" =>
      let columns ← countOr "invalid number of columns" value 1
      return { s with columns := some columns, digits := "" }
  | "a" => return { s with across := true }
  | "c" => return { s with carets := true }
  | "d" => return { s with doubles := true }
  | "D" => return { s with dateFormat := value }
  | "e" => return { s with untabs := true, inputTabs := ← tabsOf 'e' s.inputTabs value }
  | "f" | "F" => return { s with feeds := true }
  | "h" => return { s with heading := some value }
  | "i" => return { s with tabs := true, outputTabs := ← tabsOf 'i' s.outputTabs value }
  | "J" => return { s with joins := true }
  | "l" =>
      return { s with pageLength := ← countOr "'-l PAGE_LENGTH' invalid number of lines" value 1 }
  | "m" => return { s with merges := true }
  | "n" =>
      let found ← tabsOf 'n' { sign := s.numberEnd, width := s.numberDigits } value
      return { s with numbered := true, numberEnd := found.sign, numberDigits := found.width }
  | "N" => return { s with firstNumber := some (← signedOr value) }
  | "o" => return { s with margin := ← countOr "'-o MARGIN' invalid line offset" value 0 }
  | "r" => return { s with quiet := true }
  | "s" =>
      if s.separator.isSome then return s
      return { s with oldSeparator := some (if option.valued then value else
        s.oldSeparator.getD "") }
  | "S" => return { s with separator := some value, oldSeparator := none }
  | "t" => return { s with framed := false, keepsFeeds := true }
  | "T" => return { s with framed := false, keepsFeeds := false }
  | "v" => return { s with escapes := true }
  | "w" =>
      let width ← countOr "'-w PAGE_WIDTH' invalid number of characters" value 1
      return { s with oldWidth := true, width := if s.cuts then s.width else width }
  | "W" =>
      let width ← countOr "'-W PAGE_WIDTH' invalid number of characters" value 1
      return { s with oldWidth := false, cuts := true, width }
  | _ => return s
where
  /-- A number that may be below zero. -/
  signedOr (text : String) : Except Misuse Int :=
    let what := "'-N NUMBER' invalid starting line number"
    match text.toList with
    | '-' :: c :: rest =>
        if c.isDigit then
          return -((← countOr what (String.ofList (c :: rest)) 0 : Nat) : Int)
        else .error (.plain (what ++ ": " ++ quoted text))
    | _ => return ((← countOr what text 0 : Nat) : Int)

/-- What is to be done with the text of files.  A STORED page is read as a whole before it is
    written. -/
structure Plan extends Settings where
  count : Nat
  stores : Bool
  /-- What separates columns, and whether anything does. -/
  between : List Char
  separates : Bool
  bodyLines : Nat
  numberWidth : Nat
  columnWidth : Nat

/-- Settings in which what was said in the old way is said in the new one. -/
def Settings.renewed (s : Settings) : Settings :=
  let several := s.merges || s.columns.isSome
  let old := s.oldSeparator.isSome
  if s.oldWidth then
    if several then
      { s with
        cuts := true
        separator := if old then some (s.separator.getD (s.oldSeparator.getD "")) else s.separator }
    else { s with joins := true }
  else if s.separator.isNone && old && several then
    let text := s.oldSeparator.getD ""
    if s.cuts then { s with separator := some text }
    else { s with joins := true, separator := if text = "" then none else some text }
  else s

/-- The plan for a number of files, unless the columns would have no width. -/
def Settings.plan (s : Settings) (files : Nat) : Option Plan :=
  let bare := s.pageLength ≤ 10
  let s := if bare then { s with framed := false, keepsFeeds := true } else s
  let lines := if s.framed then s.pageLength - 10 else s.pageLength
  let bodyLines := if s.doubles then max 1 (lines / 2) else lines
  let merges := s.merges && files ≠ 0
  let count := if merges then files else s.columns.getD 1
  let given := (s.separator.getD (s.oldSeparator.getD "")).toList
  let separates := s.separator.isSome || 1 < count
  let between : List Char :=
    if count ≤ 1 then given
    else
      match s.separator with
      | none => if s.joins then ['\t'] else [' ']
      | some text => if !s.joins && text = "\t" then [' '] else text.toList
  let several := 1 < count
  let numberWidth :=
    if s.numberEnd = '\t' then
      s.numberDigits + (({} : Tabs).reach s.numberDigits).toNat
    else s.numberDigits + 1
  let width : Int := s.width - (if merges && s.numbered then numberWidth else 0 : Nat) -
    ((count - 1) * between.length : Nat)
  let columnWidth := Int.tdiv width count
  if columnWidth < 1 then none
  else
    some { s with
      merges
      cuts := (s.cuts || several) && !s.joins
      untabs := s.untabs || (several && between ≠ ['\t'])
      tabs := s.tabs || several
      count
      stores := several && !s.across && !s.merges
      between
      separates
      bodyLines
      numberWidth
      columnWidth := columnWidth.toNat }

end WasmBinary.Machine.Script.Tool.Pages
