/-
  Replacing, deleting and squeezing characters.

  1. **Sets** are written as texts: single characters, ranges, classes, characters that are
     equivalent to one, and characters that are repeated so many times, or as often as needed.

  2. **Pairs** — a character of the first set becomes the one at the same place of the second.  A
     class of letters may only stand against the other one, and then means a change of case.  The
     second set goes on with its last character.

  3. **Rules** say which sets go together with which options.

  Repeated characters are kept together with their number, so that a large number does no harm.
-/
import WasmBinary.Machine.Script.Tool.Basic

namespace WasmBinary.Machine.Script.Tool

open Run

/-! ## Sets -/

/-- A part of a set. -/
inductive SetPart
  | single (c : Char)
  | range (first last : Char)
  /-- The characters of a class that has a name. -/
  | members (name : String)
  | equivalent (c : Char)
  /-- A character so many times; zero means as often as needed. -/
  | repeated (c : Char) (count : Nat)
deriving DecidableEq, Repr

/-- The names of the classes. -/
def classNames : List String :=
  ["alnum", "alpha", "blank", "cntrl", "digit", "graph", "lower", "print", "punct", "space",
    "upper",
    "xdigit"]

/-- The characters of a class, in order. -/
def classMembers (name : String) : List Char :=
  (List.range 256).map Char.ofNat |>.filter fun c =>
    let shown := 33 ≤ c.toNat && c.toNat ≤ 126
    match name with
    | "alpha" => c.isAlpha
    | "digit" => c.isDigit
    | "alnum" => c.isAlphanum
    | "upper" => c.isUpper
    | "lower" => c.isLower
    | "space" => isWhite c
    | "blank" => c = ' ' || c = '\t'
    | "punct" => shown && !c.isAlphanum
    | "print" => shown || c = ' '
    | "graph" => shown
    | "cntrl" => c.toNat < 32 || c.toNat = 127
    | "xdigit" => c.isDigit || "abcdefABCDEF".contains c
    | _ => false

/-- Characters, each so many times. -/
abbrev Spans := List (Char × Nat)

/-- The characters of a part. -/
def SetPart.spans : SetPart → Spans
  | single c | equivalent c => [(c, 1)]
  | range a b => (List.range (b.toNat + 1 - a.toNat)).map fun i => (Char.ofNat (a.toNat + i), 1)
  | members name => (classMembers name).map fun c => (c, 1)
  | repeated c n => if n = 0 then [] else [(c, n)]

/-- How many characters spans have. -/
def Spans.size (spans : Spans) : Nat := sumOf (spans.map (·.2))

/-- The characters of parts. -/
def spansOf (parts : List SetPart) : Spans := parts.flatMap SetPart.spans

/-- A part that stands for one of the two cases of letters: whether it is the upper one. -/
def SetPart.upper? : SetPart → Option Bool
  | members "upper" => some true
  | members "lower" => some false
  | _ => none

/-! ## Reading sets -/

/-- Characters with a flag that says whether they are themselves whatever they are. -/
abbrev Marked := List (Char × Bool)

/-- The character of an escape by one letter. -/
def simpleEscape (c : Char) : Char :=
  match c with
  | 'a' => '\x07'
  | 'b' => '\x08'
  | 'f' => '\x0c'
  | 'n' => '\n'
  | 'r' => '\x0d'
  | 't' => '\t'
  | 'v' => '\x0b'
  | c => c

/-- Takes escapes out of a text: its characters, and warnings. -/
def unescaped : Nat → List Char → Marked × List String
  | 0, _ | _, [] => ([], [])
  | n + 1, '\\' :: rest =>
      let digits := (rest.take 3).takeWhile fun c => '0' ≤ c && c ≤ '7'
      let value := Nat.ofDigitChars 8 digits 0
      let onward (c : Char) (marked : Bool) (warnings : List String) (rest : List Char) :
          Marked × List String :=
        let (cs, more) := unescaped n rest
        ((c, marked) :: cs, warnings ++ more)
      match rest, digits with
      | [], _ =>
          onward '\\' false ["warning: an unescaped backslash at end of string is not portable"] []
      | c :: rest, [] => onward (simpleEscape c) true [] rest
      | _, [a, b, c] =>
          if value < 256 then onward (Char.ofNat value) true [] (rest.drop 3)
          else
            onward (Char.ofNat (value / 8)) true
              ["warning: the ambiguous octal escape \\" ++ String.ofList digits ++
                " is being\n\tinterpreted as the 2-byte sequence \\0" ++ String.ofList [a, b] ++
                ", " ++ c.toString] (rest.drop 2)
      | _, _ => onward (Char.ofNat value) true [] (rest.drop digits.length)
  | n + 1, c :: rest =>
      let (cs, warnings) := unescaped n rest
      ((c, false) :: cs, warnings)

/-- A character as messages about sets show it. -/
def plainly (c : Char) : List Char :=
  if c = '\\' then ['\\', '\\'] else if isPrintable c then [c] else escapeOf c

/-- A character as messages about ranges show it. -/
def inOctal (c : Char) : List Char :=
  if isPrintable c then [c] else '\\' :: (Nat.toDigits 8 c.toNat).leftpad 3 '0'

/-- Characters as messages about sets show them. -/
def plainText (cs : Marked) : String := String.ofList (cs.flatMap fun (c, _) => plainly c)

/-- What stands in front of a delimiter and a closing bracket, and what follows these. -/
def upToClosing (delimiter : Char) : Marked → Option (Marked × Marked)
  | (c, false) :: (']', false) :: rest =>
      if c = delimiter then some ([], rest)
      else (upToClosing delimiter ((']', false) :: rest)).map fun (inside, rest) =>
        ((c, false) :: inside, rest)
  | c :: rest => (upToClosing delimiter rest).map fun (inside, rest) => (c :: inside, rest)
  | [] => none

/-- What is behind the opening bracket of a repeated character: the part, and what follows it.
    There is none if no bracket closes it. -/
def repeatedPart? : Marked → Except String (Option (SetPart × Marked))
  | (c, _) :: ('*', false) :: rest =>
      let inside := rest.takeWhile fun d => !d.2 && d.1 != ']'
      match rest.drop inside.length with
      | (']', false) :: rest =>
          let digits := inside.map (·.1)
          let base := if digits.head? = some '0' then 8 else 10
          let valid := digits.all fun d => d.isDigit && d.toNat - 48 < base
          let count := Nat.ofDigitChars base digits 0
          if valid && count < Nat.pow 2 64 - 1 then .ok (some (.repeated c count, rest))
          else .error ("invalid repeat count " ++ cited (plainText inside) ++
            " in [c*n] construct")
      | _ => .ok none
  | _ => .ok none

/-- Whether characters start with a star, digits and a closing bracket. -/
def countsBehindStar : Marked → Bool
  | ('*', false) :: rest =>
      ((rest.dropWhile fun d => d.1.isDigit).head?).any fun d => d.1 = ']' && !d.2
  | _ => false

/-- What is wrong with a class between brackets, if anything: the part that it is otherwise. -/
def bracketedPart (delimiter : Char) (inside : Marked) : Except String SetPart :=
  let name := String.ofList (inside.map (·.1))
  match delimiter, inside with
  | ':', [] => .error "missing character class name '[::]'"
  | ':', _ =>
      if classNames.contains name then .ok (.members name)
      else .error ("invalid character class " ++ cited (plainText inside))
  | _, [] => .error "missing equivalence class character '[==]'"
  | _, [(c, _)] => .ok (.equivalent c)
  | _, _ =>
      .error (plainText inside ++ ": equivalence class operand must be a single character")

/-- The part in front that is a single character or a range, and what follows it. -/
def plainPart (c : Char) (rest : Marked) : Except String (SetPart × Marked) :=
  match rest with
  | ('-', false) :: (last, _) :: rest =>
      if last < c then
        .error ("range-endpoints of '" ++ String.ofList (inOctal c) ++ "-" ++
          String.ofList (inOctal last) ++ "' are in reverse collating sequence order")
      else .ok (.range c last, rest)
  | rest => .ok (.single c, rest)

/-- The parts of a set. -/
def setParts : Nat → Marked → Except String (List SetPart)
  | 0, _ | _, [] => .ok []
  | n + 1, (c, marked) :: rest => do
      if c = '[' && !marked then
        let bracketed := match rest with
          | (delimiter, false) :: inside =>
              if delimiter = ':' || delimiter = '=' then
                (upToClosing delimiter inside).map fun found => (delimiter, inside, found)
              else none
          | _ => none
        if let some (delimiter, behind, inside, after) := bracketed then
          match bracketedPart delimiter inside with
          | .ok part => return part :: (← setParts n after)
          | .error text => if inside.isEmpty || !countsBehindStar behind then throw text
        if let some (part, after) := ← repeatedPart? rest then
          return part :: (← setParts n after)
      let (part, after) ← plainPart c rest
      return part :: (← setParts n after)

/-! ## Pairs -/

/-- Something that pairs are made of: the same character so many times, or the letters of a case. -/
inductive SetItem
  | span (c : Char) (count : Nat)
  | letters (upper : Bool)
deriving DecidableEq, Repr

/-- The items of parts. -/
def itemsOf (parts : List SetPart) : List SetItem :=
  parts.flatMap fun part =>
    match part.upper? with
    | some upper => [.letters upper]
    | none => part.spans.map fun (c, n) => .span c n

/-- The letters of a case one by one. -/
def letterItems (upper : Bool) : List SetItem :=
  (classMembers (if upper then "upper" else "lower")).map fun c => .span c 1

/-- What each character becomes. -/
abbrev Exchange := Array Char

/-- Every character stays what it is. -/
def Exchange.same : Exchange := (Array.range 256).map Char.ofNat

/-- The letters of a case become those of the other one. -/
def Exchange.changeCase (table : Exchange) (upper : Bool) : Exchange :=
  (classMembers (if upper then "upper" else "lower")).foldl (fun table c =>
    table.set! c.toNat (if upper then c.toLower else c.toUpper)) table

/-- Pairs the items of two sets, as far as both go; nothing where letters of a case stand against
    something else. -/
def pairItems : Nat → List SetItem → List SetItem → Exchange → Option Exchange
  | 0, _, _, table | _, _, [], table => some table
  | n + 1, .letters u :: first, .letters v :: second, table =>
      pairItems n first second (if u = v then table else table.changeCase u)
  | _, _, .letters _ :: _, _ => none
  | _, [], _, table => some table
  | n + 1, .letters u :: first, second, table => pairItems n (letterItems u ++ first) second table
  | n + 1, .span c k :: first, .span d m :: second, table =>
      let left (c : Char) (k : Nat) (items : List SetItem) : List SetItem :=
        if k = 0 then items else .span c k :: items
      pairItems n (left c (k - m) first) (left d (m - k) second) (table.set! c.toNat d)

/-- More steps than pairing two sets takes. -/
def pairingSteps (first second : List SetItem) : Nat := 27 * (first.length + second.length) + 1

/-! ## Rules -/

/-- What is done to a text. -/
structure Exchanging where
  deleted : Char → Bool := fun _ => false
  table : Exchange := .same
  squeezed : Char → Bool := fun _ => false

/-- Whether spans have a character. -/
def Spans.contains (spans : Spans) : Char → Bool :=
  let table := spans.foldl (fun (table : Array Bool) (c, _) => table.set! c.toNat true)
    (Array.replicate 256 false)
  fun c => table.getD c.toNat false

/-- A second set with its repeated character as long as needed. -/
def stretched (length : Nat) (parts : List SetPart) : List SetPart :=
  let size := (spansOf parts).size
  parts.map fun
    | .repeated c 0 => .repeated c (length - size)
    | part => part

/-- Goes on with the last character of a second set up to a length. -/
def lengthened (length : Nat) (parts : List SetPart) : Except String (List SetPart) :=
  let size := (spansOf parts).size
  let more (c : Char) : Except String (List SetPart) := .ok (parts ++ [.repeated c (length - size)])
  if length ≤ size then .ok parts
  else if size = 0 then .error "when not truncating set1, string2 must be non-empty"
  else
    match parts.getLast? with
    | some (.single c) | some (.range _ c) | some (.repeated c _) | some (.equivalent c) => more c
    | some (.members _) =>
        .error ("when translating with string1 longer than string2,\n" ++
          "the latter string must not end with a character class")
    | none => .ok parts

/-- What two sets do to a text where characters are replaced. -/
def exchangeOf (u : Usage) (first second : List SetPart) : Except String Exchanging := do
  let isClass : SetPart → Bool
    | .members _ => true
    | _ => false
  let complement := u.has 'c' || u.has 'C'
  let member := (spansOf first).contains
  let outside := ((List.range 256).map Char.ofNat).filter fun c => !member c
  let length := if complement then outside.length else (spansOf first).size
  let second := stretched length second
  if second.any fun part => part matches .equivalent _ then
    throw "[=c=] expressions may not appear in string2 when translating"
  if second.any fun part => isClass part && part.upper?.isNone then
    throw ("when translating, the only character classes that may appear in\n" ++
      "string2 are 'upper' and 'lower'")
  let items := itemsOf first
  if !complement && second.any isClass then
    if (pairItems (pairingSteps items (itemsOf second)) items (itemsOf second) .same).isNone then
      throw "misaligned [:upper:] and/or [:lower:] construct"
  let second ← if u.has 't' then pure second else lengthened length second
  let spans := spansOf second
  let uniform := spans.all fun (c, _) => some c = (spans.head?).map (·.1)
  if complement && first.any isClass && !(spans.size = length && uniform) then
    throw ("when translating with complemented character classes,\n" ++
      "string2 must map all characters in the domain to one")
  let items := if complement then outside.map fun c => .span c 1 else items
  let others := if complement then spans.map fun (c, n) => .span c n else itemsOf second
  let table := (pairItems (pairingSteps items others) items others .same).getD .same
  return { table, squeezed := if u.has 's' then spans.contains else fun _ => false }

/-- What sets do to a text. -/
def exchangingOf (u : Usage) (first : List SetPart) (second : Option (List SetPart)) :
    Except String Exchanging := do
  let open? : SetPart → Bool
    | .repeated _ 0 => true
    | _ => false
  let member := (spansOf first).contains
  let complement := u.has 'c' || u.has 'C'
  let chosen (c : Char) : Bool := member c != complement
  if first.any open? then throw "the [c*] repeat construct may not appear in string1"
  match second with
  | none => return if u.has 'd' then { deleted := chosen } else { squeezed := chosen }
  | some second =>
      if 1 < second.countP open? then
        throw "only one [c*] repeat construct may appear in string2"
      if !u.has 'd' then exchangeOf u first second
      else if second.any open? then
        throw "the [c*] construct may appear in string2 only when translating"
      else return { deleted := chosen, squeezed := (spansOf second).contains }

/-- Does to a text what is to be done. -/
def Exchanging.apply (e : Exchanging) (text : String) : String :=
  (text.foldl (fun (out, last) c =>
    if e.deleted c then (out, last)
    else
      let c := e.table.getD c.toNat c
      if last = some c && e.squeezed c then (out, last) else (out.push c, some c))
    ("", (none : Option Char))).1

/-- What is wrong with the number of sets, if anything. -/
def wrongSets? (u : Usage) : Option Misuse :=
  let both := u.has 'd' && u.has 's'
  let one := u.has 'd' != u.has 's'
  match u.operands with
  | [] => some (.hinted "missing operand")
  | [set] =>
      if one then none
      else some { lines := ["missing operand after " ++ cited set,
        if both then "Two strings must be given when both deleting and squeezing repeats."
        else "Two strings must be given when translating."] }
  | [_, set] =>
      if u.has 'd' && !u.has 's' then
        some { lines := ["extra operand " ++ cited set,
          "Only one string may be given when deleting without squeezing repeats."] }
      else none
  | _ :: second :: third :: _ =>
      some (.hinted ("extra operand " ++ cited (if u.has 'd' && !u.has 's' then second else third)))

/-- Replaces, deletes or squeezes characters of the input. -/
def transliterate : Tool := fun self arguments =>
  let choices := "+ A c,complement C d,delete s,squeeze-repeats t,truncate-set1"
  withUsage choices self arguments fun u => do
    if let some m := wrongSets? u then return ← m.report self 1
    let sets ← u.operands.mapM fun text => do
      let (marked, warnings) := unescaped (text.length + 1) text.toList
      for warning in warnings do say self warning
      return setParts (marked.length + 1) marked
    let exchanging : Except String Exchanging := do
      match ← sets.mapM id with
      | [first] => exchangingOf u first none
      | [first, second] => exchangingOf u first (some second)
      | _ => return {}
    match exchanging with
    | .error text => fail self text
    | .ok exchanging =>
        match ← readStream 0 .flow with
        | .ok data =>
            emit (exchanging.apply (ByteText.ofBytes data))
            finish 0
        | .error fault => fail self ("read error: " ++ fault.words)

end WasmBinary.Machine.Script.Tool
