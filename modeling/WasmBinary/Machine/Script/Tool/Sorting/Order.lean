/-
  Orders of lines.

  1. **Orders** — texts are compared as they are, with characters left out or letters of one case
     only; or as numbers, as sizes with units, as names of months, or as versions.

  2. **Keys** are parts of lines.  They start and end at a character of a field.  Fields are
     separated by a character, or each of them starts with the blanks in front of it.

  3. **Lines** are compared key by key, and at last as a whole, unless that is not wanted.
-/
import WasmBinary.Machine.Script.Floating
import WasmBinary.Machine.Script.Tool.Basic
import WasmBinary.Machine.Script.Tool.Versions

namespace WasmBinary.Machine.Script.Tool.Sorting

/-! ## Orders -/

/-- What texts are compared as. -/
inductive Sense
  | text
  | number
  | float
  | size
  | month
  | version
  | random
deriving DecidableEq

/-- Which characters do not count. -/
inductive Ignored
  | none
  /-- All but letters, digits and blanks. -/
  | marks
  /-- All that cannot be printed. -/
  | unprintable
deriving DecidableEq

/-- How texts are compared. -/
structure Order where
  senses : List Sense := []
  ignored : Ignored := .none
  folded : Bool := false
  reversed : Bool := false
  /-- Whether blanks in front of the start of a key, and of its end, do not count. -/
  skipsFront : Bool := false
  skipsBack : Bool := false
deriving DecidableEq

namespace Order

/-- What texts are compared as. -/
def sense (o : Order) : Sense := o.senses.getLastD .text

/-- Whether nothing has been said about an order. -/
def isPlain (o : Order) : Bool := o = {}

/-- Adds what a letter means, for the start of a key, for its end, or for both. -/
def add? (o : Order) (front back : Bool) (c : Char) : Option Order :=
  match c with
  | 'b' => some { o with skipsFront := o.skipsFront || front, skipsBack := o.skipsBack || back }
  | 'd' => some { o with ignored := .marks }
  | 'i' => some { o with ignored := if o.ignored = .none then .unprintable else o.ignored }
  | 'f' => some { o with folded := true }
  | 'r' => some { o with reversed := true }
  | 'n' => some { o with senses := o.senses ++ [.number] }
  | 'g' => some { o with senses := o.senses ++ [.float] }
  | 'h' => some { o with senses := o.senses ++ [.size] }
  | 'M' => some { o with senses := o.senses ++ [.month] }
  | 'V' => some { o with senses := o.senses ++ [.version] }
  | 'R' => some { o with senses := o.senses ++ [.random] }
  | _ => none

/-- The letters of what cannot be wanted together, if there is anything of that kind. -/
def conflict? (o : Order) : Option String :=
  let has (s : Sense) : Bool := o.senses.contains s
  let texts := has .version || has .random || o.ignored ≠ .none
  let count := [has .number, has .float, has .size, has .month, texts].count true
  if count ≤ 1 then none
  else
    let letters : List (Bool × Char) := [(o.ignored = .marks, 'd'), (o.folded, 'f'),
      (has .float, 'g'), (has .size, 'h'), (o.ignored = .unprintable, 'i'), (has .month, 'M'),
      (has .number, 'n'), (has .random, 'R'), (has .version, 'V')]
    some (String.ofList ((letters.filter fun entry => entry.1).map fun entry => entry.2))

end Order

/-- Whether a character is a blank between fields. -/
def isBlank (c : Char) : Bool := c = ' ' || c = '\t' || c = '\n'

/-! ## Values -/

/-- A decimal number: whether it is negative, its digits in front of the point as a number, and the
    digits behind it, without zeros at the end. -/
structure Decimal where
  negative : Bool
  whole : Nat
  fraction : String

namespace Decimal

/-- The decimal number in front of a text without blanks in front, and what follows it. -/
def ofFront (cs : List Char) : Decimal × List Char :=
  let (negative, cs) := match cs with
    | '-' :: rest => (true, rest)
    | cs => (false, cs)
  let whole := cs.takeWhile Char.isDigit
  let rest := cs.drop whole.length
  let fraction := match rest with
    | '.' :: more => more.takeWhile Char.isDigit
    | _ => []
  let rest := match rest with
    | '.' :: more => more.drop fraction.length
    | rest => rest
  let fraction := (fraction.reverse.dropWhile (· = '0')).reverse
  ({ negative, whole := Nat.ofDigitChars 10 whole 0, fraction := String.ofList fraction }, rest)

/-- Whether a number is zero. -/
def isZero (d : Decimal) : Bool := d.whole = 0 && d.fraction = ""

/-- Compares numbers without their signs. -/
def compareSizes (a b : Decimal) : Ordering :=
  (compare a.whole b.whole).then (compare a.fraction b.fraction)

/-- Compares numbers. -/
def compare (a b : Decimal) : Ordering :=
  match a.negative && !a.isZero, b.negative && !b.isZero with
  | false, false => compareSizes a b
  | true, true => compareSizes b a
  | true, false => .lt
  | false, true => .gt

end Decimal

/-- What is compared of a key. -/
inductive Value
  | text (text : String)
  | number (d : Decimal)
  | float (x : Option Floating)
  /-- The power of the unit, negative for negative numbers, and the number. -/
  | size (unit : Int) (d : Decimal)
  | month (n : Nat)
  | version (text : String)

/-- The names of the months, as far as they count. -/
def monthNames : List String :=
  ["JAN", "FEB", "MAR", "APR", "MAY", "JUN", "JUL", "AUG", "SEP", "OCT", "NOV", "DEC"]

/-- What is compared of a text. -/
def Value.ofText (o : Order) (text : List Char) : Value :=
  let counts (c : Char) : Bool :=
    match o.ignored with
    | .none => true
    | .marks => c.isAlphanum || isBlank c
    | .unprintable => isPrintable c
  let text := if o.ignored = .none then text else text.filter counts
  let text := if o.folded then text.map Char.toUpper else text
  let visible := text.dropWhile isBlank
  match o.sense with
  | .text | .random => .text (String.ofList text)
  | .number => .number (Decimal.ofFront visible).1
  | .float => .float ((Floating.read? .extended (String.ofList text)).map Floating.Reading.value)
  | .size =>
      let (d, rest) := Decimal.ofFront visible
      let unit : Int := if d.isZero then 0 else
        match rest with
        | c :: _ => if c = 'm' || c = 'g' || c = 't' then 0 else ((powerOf? c).getD 0 : Nat)
        | [] => 0
      .size (if d.negative then -unit else unit) d
  | .month =>
      let name := String.ofList ((visible.take 3).map Char.toUpper)
      .month ((monthNames.idxOf? name).elim 0 (· + 1))
  | .version => .version (String.ofList text)

/-- Compares numbers that may be missing, or none at all. -/
def compareFloats : Option Floating → Option Floating → Ordering
  | none, none => .eq
  | none, some _ => .lt
  | some _, none => .gt
  | some a, some b =>
      match Floating.order? a b with
      | some order => order
      | none =>
          let isNone (x : Floating) : Bool := (Floating.order? x x).isNone
          match isNone a, isNone b with
          | true, false => .lt
          | false, true => .gt
          | _, _ => .eq

/-- Compares values of the same kind. -/
def Value.compare : Value → Value → Ordering
  | text a, text b => Ord.compare a b
  | number a, number b => a.compare b
  | float a, float b => compareFloats a b
  | size u a, size v b => (Ord.compare u v).then (a.compare b)
  | month a, month b => Ord.compare a b
  | version a, version b => compareVersions a b
  | _, _ => .eq

/-! ## Keys -/

/-- A part of a line that is compared.  Fields and characters are counted from zero; a key that has
    no end goes on to the end of the line. -/
structure Key where
  field : Nat := 0
  char : Nat := 0
  /-- The field in which the key ends, and how many of its characters belong to it; with zero, the
      whole field belongs to it. -/
  last : Option (Nat × Nat) := none
  order : Order := {}

/-- What is left of a line behind the field in front, and behind what separates it from the next. -/
def behindField (separator : Option Char) (cs : List Char) : List Char :=
  match separator with
  | some c => (cs.dropWhile (· ≠ c)).drop 1
  | none => (cs.dropWhile isBlank).dropWhile fun c => !isBlank c

/-- Does something so many times, as long as there is anything left. -/
def skipping (step : List Char → List Char) : Nat → List Char → List Char
  | 0, cs => cs
  | n + 1, cs => if cs.isEmpty then [] else skipping step n (step cs)

namespace Key

/-- What is left of a line from the start of a key on. -/
def front (k : Key) (separator : Option Char) (line : List Char) : List Char :=
  let cs := skipping (behindField separator) k.field line
  let cs := if k.order.skipsFront then cs.dropWhile isBlank else cs
  cs.drop k.char

/-- How many characters are left of a line from the end of a key on. -/
def behind (k : Key) (separator : Option Char) (line : List Char) : Nat :=
  match k.last with
  | none => 0
  | some (field, 0) =>
      let cs := skipping (behindField separator) field line
      match separator with
      | some c => (cs.dropWhile (· ≠ c)).length
      | none => (behindField separator cs).length
  | some (field, count) =>
      let cs := skipping (behindField separator) field line
      let cs := if k.order.skipsBack then cs.dropWhile isBlank else cs
      (cs.drop count).length

/-- The part of a line that a key means. -/
def part (k : Key) (separator : Option Char) (line : List Char) : List Char :=
  let front := k.front separator line
  match k.last with
  | none => front
  | some _ => front.take (front.length - k.behind separator line)

/-- What is compared of a line. -/
def value (k : Key) (separator : Option Char) (line : List Char) : Value :=
  .ofText k.order (k.part separator line)

end Key

/-! ## Lines -/

/-- A line with what is compared of it. -/
structure Line where
  text : String
  values : List Value

/-- How lines are compared. -/
structure Comparison where
  keys : List Key := []
  separator : Option Char := none
  /-- Whether lines are compared as a whole where all keys are equal. -/
  wholly : Bool := true
  /-- Whether that is done the other way round. -/
  reversed : Bool := false

namespace Comparison

/-- A line with what is compared of it. -/
def line (c : Comparison) (text : String) : Line :=
  let cs := text.toList
  { text, values := c.keys.map fun key => key.value c.separator cs }

/-- Compares what is compared of lines, key by key. -/
def keysOrder : List Key → List Value → List Value → Ordering
  | key :: keys, a :: as, b :: bs =>
      match a.compare b with
      | .eq => keysOrder keys as bs
      | order => if key.order.reversed then order.swap else order
  | _, _, _ => .eq

/-- Compares lines. -/
def order (c : Comparison) (a b : Line) : Ordering :=
  match keysOrder c.keys a.values b.values with
  | .eq =>
      if !c.keys.isEmpty && !c.wholly then .eq
      else
        let order := compare a.text b.text
        if c.reversed then order.swap else order
  | order => order

end Comparison

/-- Lines without those that are equal to the one that was kept last. -/
def distinct (c : Comparison) (lines : List Line) : List Line :=
  let kept := lines.foldl (fun kept line =>
    match kept with
    | last :: _ => if c.order last line = .eq then kept else line :: kept
    | [] => [line]) []
  kept.reverse

/-- Merges lists of lines: the least of the lines in front comes next. -/
def merged (c : Comparison) : Nat → List (List Line) → List Line
  | 0, _ => []
  | n + 1, lists =>
      let fronts := lists.zipIdx.filterMap fun (lines, i) => lines.head?.map fun line => (line, i)
      match fronts with
      | [] => []
      | first :: others =>
          let (line, i) := others.foldl (fun least front =>
            if c.order front.1 least.1 = .lt then front else least) first
          line :: merged c n (lists.modify i List.tail)

end WasmBinary.Machine.Script.Tool.Sorting
