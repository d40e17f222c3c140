/-
  Lines that repeat the line before them.

  1. **Comparing** — fields and characters in front may be left out, and only so many characters may
     count.

  2. **Groups** are lines that are equal to the one before them.  Of each group the first line is
     shown, or the lines that repeat it, perhaps with their number, or all of them with an empty
     line between the groups.
-/
import WasmBinary.Machine.Script.Tool.Sorting.Settings

namespace WasmBinary.Machine.Script.Tool

open Run

namespace Repeats

/-- Where empty lines stand. -/
structure Gaps where
  /-- In front of the first group, between groups, and behind the last one. -/
  front : Bool := false
  between : Bool := false
  back : Bool := false

/-- Which lines are shown, and how they are compared. -/
structure Settings where
  fields : Nat := 0
  /-- Whether the number of fields was given in the old form. -/
  oldFields : Bool := false
  chars : Nat := 0
  most : Option Nat := none
  folded : Bool := false
  counted : Bool := false
  singles : Bool := true
  /-- Whether the line is shown that a group ends with. -/
  ends : Bool := true
  /-- Whether the lines are shown that are repeated. -/
  repeated : Bool := false
  gaps : Gaps := {}
  /-- Whether all lines are shown, in groups. -/
  grouped : Option Gaps := none
  /-- Whether an option was given that chooses lines. -/
  chosen : Bool := false
  ending : Char := '\n'

namespace Settings

/-- The number that the value of an option is. -/
def number (what text : String) : Except Misuse Nat :=
  match amount "" text with
  | .ok n => .ok n
  | .error .tooLarge => .ok (Nat.pow 2 64 - 1)
  | .error _ => .error (.plain (text ++ ": invalid number of " ++ what))

/-- What an option adds. -/
def add (s : Settings) (option : Given) : Except Misuse Settings := do
  match option.key with
  | "c" => return { s with counted := true, chosen := true }
  | "d" => return { s with singles := false, chosen := true }
  | "u" => return { s with ends := false, chosen := true }
  | "D" =>
      let gaps ← if !option.valued then pure "none" else
        choiceOf ["none", "prepend", "separate"] option.value "--all-repeated"
      let gaps : Gaps := { front := gaps = "prepend", between := gaps ≠ "none" }
      return { s with singles := false, repeated := true, gaps, chosen := true }
  | "group" =>
      let word ← if !option.valued then pure "separate" else
        choiceOf ["prepend", "append", "separate", "both"] option.value "--group"
      let front := word = "prepend" || word = "both"
      let gaps : Gaps := { front, between := true, back := word = "append" || word = "both" }
      return { s with grouped := some gaps }
  | "i" => return { s with folded := true }
  | "z" => return { s with ending := '\x00' }
  | "f" => return { s with fields := ← number "fields to skip" option.value, oldFields := false }
  | "s" => return { s with chars := ← number "bytes to skip" option.value }
  | "w" => return { s with most := some (← number "bytes to compare" option.value) }
  | key =>
      match key.toList with
      | [c] =>
          let before := if s.oldFields then s.fields else 0
          return { s with fields := before * 10 + (c.toNat - 48), oldFields := true }
      | _ => return s

/-- What is wrong with the settings as a whole. -/
def mistake? (s : Settings) : Option String :=
  if s.grouped.isSome && s.chosen then some "--group is mutually exclusive with -c/-d/-D/-u"
  else if s.counted && s.repeated then
    some "printing all duplicated lines and repeat counts is meaningless"
  else none

/-- The part of a line that is compared. -/
def part (s : Settings) (line : String) : String :=
  let cs := Sorting.skipping (Sorting.behindField none) s.fields line.toList
  let cs := cs.drop s.chars
  let cs := match s.most with
    | some most => cs.take most
    | none => cs
  String.ofList (if s.folded then cs.map Char.toUpper else cs)

/-- The groups of lines. -/
def groups (s : Settings) (lines : List String) : List (List String) :=
  let parted := lines.map fun line => (s.part line, line)
  let found := parted.foldl (fun (found : List (String × List String)) (entry : String × String) =>
    match found with
    | (part, group) :: rest =>
        if part = entry.1 then (part, entry.2 :: group) :: rest
        else (entry.1, [entry.2]) :: found
    | [] => [(entry.1, [entry.2])]) []
  (found.map fun group => group.2.reverse).reverse

/-- The lines that are shown of a group. -/
def shown (s : Settings) (group : List String) : List String :=
  match group with
  | [] => []
  | [line] => if s.singles then [line] else []
  | line :: _ =>
      if s.repeated then group.dropLast ++ (if s.ends then group.getLast?.toList else [])
      else if s.ends then [line] else []

/-- The text that is shown of lines. -/
def text (s : Settings) (lines : List String) : String :=
  let groups := s.groups lines
  let gap := s.ending.toString
  let joined (gaps : Gaps) (texts : List String) : String :=
    if texts.isEmpty then ""
    else (if gaps.front then gap else "") ++ (if gaps.between then gap else "").intercalate texts ++
      (if gaps.back then gap else "")
  let whole (group : List String) : String :=
    String.join (group.map fun line => line.push s.ending)
  match s.grouped with
  | some gaps => joined gaps (groups.map whole)
  | none =>
      let chosen := groups.filter fun group =>
        !(s.shown group).isEmpty || 1 < group.length && s.repeated
      joined s.gaps <| chosen.map fun group =>
        if s.counted then
          String.join ((s.shown group).map fun line =>
            padded 7 group.length ++ " " ++ line.push s.ending)
        else whole (s.shown group)

end Settings

/-- Takes the numbers of characters in the old form out of the operands. -/
def oldChars (s : Settings) : List String → Settings × List String
  | [] => (s, [])
  | word :: rest =>
      match word.toList with
      | '+' :: digits =>
          if !digits.isEmpty && digits.all Char.isDigit then
            oldChars { s with chars := Nat.ofDigitChars 10 digits 0 } rest
          else
            let (s, rest) := oldChars s rest
            (s, word :: rest)
      | _ =>
          let (s, rest) := oldChars s rest
          (s, word :: rest)

end Repeats

/-- Drops lines that repeat the one before them. -/
def unique : Tool := fun self arguments =>
  let choices := "c,count d,repeated --all-repeated=? --group=? i,ignore-case u,unique " ++
    "f,skip-fields= s,skip-chars= w,check-chars= z,zero-terminated D 0 1 2 3 4 5 6 7 8 9"
  let add (s : Repeats.Settings) (option : Given) : Except Misuse Repeats.Settings :=
    s.add (if option.key = "all-repeated" then { option with key := "D" } else option)
  withSettings choices ({} : Repeats.Settings) add self arguments fun s operands => do
    let (s, operands) := Repeats.oldChars s operands
    if let some operand := operands[2]? then
      return ← misuse self ("extra operand " ++ cited operand)
    if let some text := s.mistake? then return ← misuse self text
    let path := operands.headD "-"
    match ← openOperand path with
    | .error fault => fail self (shown path ++ ": " ++ fault.words)
    | .ok number =>
        let target := (operands[1]?).filter fun target => target ≠ "-"
        if let some target := target then
          match ← openPath target .replace with
          | .error fault => return ← fail self (shown target ++ ": " ++ fault.words)
          | .ok number => lead 1 (some number)
        match ← readOpened number .flow with
        | .error fault => fail self ("error reading " ++ quoted path ++ ": " ++ fault.words)
        | .ok data =>
            emit (s.text (recordsOf s.ending (ByteText.ofBytes data)))
            finish 0

end WasmBinary.Machine.Script.Tool
