/-
  Patterns for texts.

  A pattern is a list of characters, each of which knows whether it is active.  An active star
  stands for any text, an active question mark for any character, and active brackets for a
  character of a set.  An active backslash takes the meaning from the character behind it.  All
  other characters stand for themselves.
-/

namespace WasmBinary.Machine.Script.Pattern

/-- A character of a pattern, and whether it is active. -/
abbrev Mark := Char × Bool

/-- The pattern that a text is, where all of it is active or none. -/
def ofText (active : Bool) (text : String) : List Mark :=
  text.toList.map fun c => (c, active)

/-- Whether a pattern has a character that stands for others. -/
def isWild (pattern : List Mark) : Bool :=
  pattern.any fun (c, active) => active && (c = '*' || c = '?' || c = '[')

/-- The classes of characters that have names. -/
def inClass (name : String) (c : Char) : Bool :=
  let visible := 33 ≤ c.toNat && c.toNat ≤ 126
  match name with
  | "alpha" => c.isAlpha
  | "digit" => c.isDigit
  | "alnum" => c.isAlphanum
  | "upper" => c.isUpper
  | "lower" => c.isLower
  | "space" => c = ' ' || (9 ≤ c.toNat && c.toNat ≤ 13)
  | "blank" => c = ' ' || c = '\t'
  | "punct" => visible && !c.isAlphanum
  | "print" => visible || c = ' '
  | "graph" => visible
  | "cntrl" => c.toNat < 32 || c.toNat = 127
  | "xdigit" => c.isDigit || ('a' ≤ c && c ≤ 'f') || ('A' ≤ c && c ≤ 'F')
  | "word" => c.isAlphanum || c = '_'
  | "vertical" => 10 ≤ c.toNat && c.toNat ≤ 13 || c.toNat = 0x85
  | _ => false

/-- A member of a set of characters. -/
inductive Member
  | range (first last : Char)
  | named (name : String)
  /-- All that a class does not have. -/
  | outside (name : String)

/-- Whether a character is meant by a member. -/
def Member.has (c : Char) : Member → Bool
  | range first last => first ≤ c && c ≤ last
  | named name => inClass name c
  | outside name => !inClass name c

/-- The members of a set up to its closing bracket, and what follows it. -/
def members : Nat → (start : Bool) → List Mark → Option (List Member × List Mark)
  | 0, _, _ => none
  | n + 1, start, marks =>
      match marks with
      | [] => none
      | (']', true) :: rest =>
          if start then range n ']' rest else some ([], rest)
      | ('[', true) :: (':', _) :: rest =>
          let name := (rest.takeWhile fun m => m.1 ≠ ':').map (·.1)
          match rest.drop name.length with
          | (':', _) :: (']', _) :: rest => do
              let (others, rest) ← members n false rest
              return (.named (String.ofList name) :: others, rest)
          | _ => range n '[' ((':', true) :: rest)
      | ('\\', true) :: (c, _) :: rest => range n c rest
      | (c, _) :: rest => range n c rest
where
  /-- A range, or a single character, that starts with a given one. -/
  range (n : Nat) (first : Char) (rest : List Mark) : Option (List Member × List Mark) :=
    match rest with
    | ('-', true) :: (c, active) :: rest' =>
        if c = ']' && active then do
          let (others, rest) ← members n false rest
          return (.range first first :: others, rest)
        else do
          let (others, rest) ← members n false rest'
          return (.range first c :: others, rest)
    | rest => do
        let (others, rest) ← members n false rest
        return (.range first first :: others, rest)

/-- The set behind an opening bracket, as a test, and what follows it. -/
def set? (marks : List Mark) : Option ((Char → Bool) × List Mark) := do
  let (negated, marks) := match marks with
    | ('!', true) :: rest => (true, rest)
    | marks => (false, marks)
  let (found, rest) ← members (marks.length + 1) true marks
  return (fun c => negated != found.any (Member.has c), rest)

/-- Whether a text has the form of a pattern.  Bounded by the sum of both lengths. -/
def fitsWithin : Nat → List Mark → List Char → Bool
  | 0, pattern, text => pattern.isEmpty && text.isEmpty
  | _ + 1, [], text => text.isEmpty
  | n + 1, ('*', true) :: pattern, text =>
      fitsWithin n pattern text || match text with
        | [] => false
        | _ :: rest => fitsWithin n (('*', true) :: pattern) rest
  | n + 1, ('?', true) :: pattern, text =>
      match text with
      | [] => false
      | _ :: rest => fitsWithin n pattern rest
  | n + 1, ('[', true) :: pattern, text =>
      match text, set? pattern with
      | [], _ => false
      | c :: rest, some (test, pattern) => test c && fitsWithin n pattern rest
      | c :: rest, none => c = '[' && fitsWithin n pattern rest
  | n + 1, ('\\', true) :: (p, _) :: pattern, text =>
      match text with
      | [] => false
      | c :: rest => c = p && fitsWithin n pattern rest
  | n + 1, (p, _) :: pattern, text =>
      match text with
      | [] => false
      | c :: rest => c = p && fitsWithin n pattern rest

/-- Whether a text has the form of a pattern. -/
def fits (pattern : List Mark) (text : List Char) : Bool :=
  fitsWithin (pattern.length + text.length + 1) pattern text

/-- The text without a shortest or longest beginning that fits. -/
def cutFront (longest : Bool) (pattern : List Mark) (text : List Char) : List Char :=
  let lengths := List.range (text.length + 1)
  let lengths := if longest then lengths.reverse else lengths
  match lengths.find? fun n => fits pattern (text.take n) with
  | some n => text.drop n
  | none => text

/-- The text without a shortest or longest end that fits. -/
def cutBack (longest : Bool) (pattern : List Mark) (text : List Char) : List Char :=
  let lengths := List.range (text.length + 1)
  let lengths := if longest then lengths else lengths.reverse
  match lengths.find? fun n => fits pattern (text.drop n) with
  | some n => text.take n
  | none => text

end WasmBinary.Machine.Script.Pattern
