/-
  Regular expressions.

  An expression stands for texts.  It is built from characters and sets of characters, from
  conditions on the place where it stands, and from smaller expressions: one behind the other, one
  or the other, or the same one several times.  Parts of it can be groups, which are known by
  numbers, so that what they have matched can be told, or asked for once more.
-/
import WasmBinary.Machine.Script.Pattern

namespace WasmBinary.Machine.Script

/-- A regular expression. -/
inductive Regex
  | empty
  | char (c : Char)
  /-- Any character; perhaps not the end of a line. -/
  | any (lineEnds : Bool)
  | set (negated : Bool) (members : List Pattern.Member)
  /-- Where the text starts, or also a line. -/
  | front (lines : Bool)
  /-- Where the text ends, or also a line. -/
  | back (lines : Bool)
  /-- A place where a word starts, ends, or either of both. -/
  | border (starts ends : Bool)
  | noBorder
  | seq (a b : Regex)
  | alt (a b : Regex)
  /-- Several times; as often as possible, or as seldom. -/
  | repeated (r : Regex) (least : Nat) (most : Option Nat) (greedy : Bool)
  | group (n : Nat) (r : Regex)
  /-- What a group has matched. -/
  | same (n : Nat)
  /-- A place in front of which, or behind which, something stands, or does not. -/
  | look (ahead wanted : Bool) (r : Regex)
  /-- The first way to match, and no other. -/
  | once (r : Regex)
  /-- Letters in either case. -/
  | caseless (r : Regex)
  /-- What is in front of this place does not count as matched. -/
  | keep

namespace Regex

/-- Whether an expression asks for what a group has matched. -/
def recalls : Regex → Bool
  | same _ => true
  | seq a b | alt a b => a.recalls || b.recalls
  | repeated r .. | group _ r | look _ _ r | once r | caseless r => r.recalls
  | _ => false

/-- A literal text. -/
def ofText (text : String) : Regex :=
  text.toList.foldr (fun c r => .seq (.char c) r) .empty

end Regex

end WasmBinary.Machine.Script
