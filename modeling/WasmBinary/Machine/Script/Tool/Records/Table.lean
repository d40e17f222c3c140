/-
  Values and arrays of programs that work on records.

  1. **Kinds** — a value is a number, a text, a text from outside, which counts as a number if it
     looks like one, or nothing yet, which counts as zero and as an empty text.

  2. **Numbers as texts** — a whole number is written with all its digits, and others as a format
     asks for.

  3. **Comparison** is that of numbers if both sides count as numbers, and else that of texts.

  4. **Keys** of arrays are texts or whole numbers; a whole number and its digits are the same key.

  5. **Order** — keys are kept in chains by their digests, the latest used one first.  Those of
     whole numbers have chains of their own, until keys are asked for as texts.  This settles in
     which order the keys of an array are gone through.
-/
import Std.Data.HashMap
import WasmBinary.Machine.Script.Tool.Records.Program
import WasmBinary.Machine.Script.Tool.Records.Token

namespace WasmBinary.Machine.Script.Tool.Records

/-! ## Values -/

/-- A value. -/
inductive Value
  | nothing
  | number (x : Float)
  | text (s : String)
  /-- A text from outside. -/
  | seen (s : String)
deriving Inhabited

namespace Value

/-- The exact number that a number is.  What is no number counts as negative, as it comes from
    calculations that have no result. -/
def exact (x : Float) : Floating :=
  if x.isNaN then .nan true else Floating.ofBits .double x.toBits.toNat

/-- The whole part of a number, if it has one. -/
def whole? (x : Float) : Option Int :=
  match exact x with
  | .finite negative m power =>
      let n : Nat := if 0 ≤ power then m * Nat.pow 2 power.toNat else m / Nat.pow 2 (-power).toNat
      some (if negative then -(n : Int) else n)
  | _ => none

/-- The whole number that a number is, if it is one that fits into a word. -/
def integer? (x : Float) : Option Int :=
  match exact x, whole? x with
  | .finite _ m power, some n =>
      let isWhole := 0 ≤ power || m % Nat.pow 2 (-power).toNat = 0
      if isWhole && -(Nat.pow 2 63) ≤ n && n ≤ Nat.pow 2 64 then some (min n (Nat.pow 2 64 - 1))
      else none
  | _, _ => none

/-- The whole part of a number, within the bounds of words. -/
def bounded (x : Float) : Int :=
  match exact x with
  | .nan _ => -(Nat.pow 2 63)
  | .infinite negative => if negative then -(Nat.pow 2 63) + 1 else Nat.pow 2 64 - 1
  | .finite .. => max (-(Nat.pow 2 63) + 1) (min (Nat.pow 2 64 - 1) ((whole? x).getD 0))

/-- A number as a conversion writes it. -/
def written (style : Numeral.Style) (letter : Char) (x : Float) : String :=
  Floating.text .double style letter (exact x)

/-- The number in front of a text; zero if there is none. -/
def leadingNumber (s : String) : Float :=
  match Floating.read? .double s with
  | some r => Token.floatOf r.value
  | none => 0.0

/-- The number that a text is as a whole, with blanks around it. -/
def wholeNumber? (s : String) : Option Float :=
  let cs := (s.toList.dropWhile Numeral.isBlank).reverse.dropWhile Numeral.isBlank
  let body := match cs.reverse with
    | '-' :: rest | '+' :: rest => rest
    | cs => cs
  match body with
  | c :: _ =>
      if body.all (fun c => c.isDigit || c = '.' || c = 'e' || c = 'E' || c = '+' || c = '-') &&
          (c.isDigit || c = '.') then
        match Floating.read? .double (String.ofList cs.reverse) with
        | some r => if r.rest = "" then some (Token.floatOf r.value) else none
        | none => none
      else none
  | [] => none

/-- The number that a value counts as. -/
def toNumber : Value → Float
  | nothing => 0.0
  | number x => x
  | text s | seen s => leadingNumber s

/-- Whether a value counts as true. -/
def isTrue : Value → Bool
  | nothing => false
  | number x => x != 0.0
  | text s => s ≠ ""
  | seen s =>
      match wholeNumber? s with
      | some x => x != 0.0
      | none => s ≠ ""

/-- A truth value as a number. -/
def ofBool (b : Bool) : Value := number (if b then 1.0 else 0.0)

/-- A count as a number. -/
def ofNat (n : Nat) : Value := number n.toFloat

/-- The number that a value is, if it is one and no text. -/
def number? : Value → Option Float
  | nothing => some 0.0
  | number x => some x
  | text _ => none
  | seen s => wholeNumber? s

/-- The quotient of two numbers without its fraction taken away from the first one as often as
    possible. -/
def remainder (x y : Float) : Float :=
  match exact x, exact y with
  | .finite negative m p, .finite _ k q =>
      if k = 0 then 0.0 / 0.0
      else
        let low := min p q
        let rest := (m * Nat.pow 2 (p - low).toNat) % (k * Nat.pow 2 (q - low).toNat)
        Token.floatOf (Floating.nearest .double negative
          (rest * Nat.pow 2 (max low 0).toNat) (Nat.pow 2 (max (-low) 0).toNat))
  | .finite .., .infinite _ => x
  | _, _ => 0.0 / 0.0

/-- What comes of a calculation. -/
def calculate (c : Calculation) (x y : Float) : Float :=
  match c with
  | .add => x + y
  | .subtract => x - y
  | .multiply => x * y
  | .divide => x / y
  | .remainder => remainder x y
  | .power => Float.pow x y

/-- Whether a comparison holds. -/
def holds (c : Comparison) (o : Option Ordering) : Bool :=
  match c, o with
  | .less, some .lt | .atMost, some .lt | .atMost, some .eq | .same, some .eq => true
  | .greater, some .gt | .atLeast, some .gt | .atLeast, some .eq => true
  | .different, some .eq => false
  | .different, _ => true
  | _, _ => false

/-- How two numbers compare; nothing compares with what is no number. -/
def orderOf (x y : Float) : Option Ordering :=
  if x < y then some .lt else if y < x then some .gt else if x == y then some .eq else none

end Value

/-! ## Arrays -/

/-- A key of an array. -/
inductive Key
  | text (s : String)
  | whole (n : Int)

/-- The text of a key. -/
def Key.toText : Key → String
  | text s => s
  | whole n => toString n

/-- An array. -/
structure Table where
  values : Std.HashMap String Value := {}
  /-- Whether the keys are the first whole numbers, from one on, and not in chains yet. -/
  plain : Bool := false
  /-- Whether keys are in chains as texts. -/
  byText : Bool := false
  chains : Array (List String) := #[]
  wholes : Array (List Int) := #[]

namespace Table

/-- The digest of a key. -/
def digestOf (s : String) : Nat :=
  (s.toList.foldl (fun (h : UInt32) c => (h ^^^ UInt32.ofNat c.toNat) * 16777619) 2166136261).toNat

/-- How many chains there are. -/
def width (t : Table) : Nat := max t.chains.size t.wholes.size

/-- The place of a whole number among the chains. -/
def placeOf (width : Nat) (n : Int) : Nat := (n % (width : Int)).toNat

/-- How many chains so many keys need. -/
def widthFor : Nat → Nat → Nat → Nat
  | 0, width, _ => width
  | fuel + 1, width, size => if 12 * width < size then widthFor fuel (2 * width) size else width

/-- An array with empty chains, where it has none yet. -/
def withChains (t : Table) : Table :=
  if t.width = 0 then
    { t with chains := Array.replicate 64 [], wholes := Array.replicate 64 [] }
  else t

/-- An array whose keys are in chains, as whole numbers. -/
def unfolded (t : Table) : Table :=
  if !t.plain then t.withChains
  else
    let size := t.values.size
    let width := widthFor 40 64 size
    let empty : Array (List Int) := Array.replicate width []
    let wholes := (List.range size).foldl (fun w i =>
      w.modify ((i + 1) % width) fun chain => ((i + 1 : Nat) : Int) :: chain) empty
    { t with plain := false, byText := false, chains := Array.replicate width [], wholes }

/-- An array whose keys are in chains, as texts. -/
def withTexts (t : Table) : Table :=
  let t := t.unfolded
  if t.byText then t
  else
    let width := t.width
    let chains := t.wholes.foldl (fun chains chain =>
      chain.foldl (fun (chains : Array (List String)) n =>
        let s := toString n
        chains.modify (digestOf s % width) (s :: ·)) chains) t.chains
    { t with chains, byText := true }

/-- An array with twice as many chains. -/
def doubled (t : Table) : Table :=
  let width := t.width
  let chains := Array.ofFn (n := 2 * width) fun i =>
    (t.chains.getD (i % width) []).filter fun s => digestOf s % (2 * width) = i
  let wholes := Array.ofFn (n := 2 * width) fun i =>
    (t.wholes.getD (i % width) []).filter fun n => placeOf (2 * width) n = i
  { t with chains, wholes }

/-- An array with room for one more key. -/
def roomy (t : Table) : Table := if 12 * t.width < t.values.size + 1 then t.doubled else t

/-- Puts the chain of a text in order as it is used, and adds it if it is new. -/
def useText (t : Table) (s : String) : Table :=
  let t := t.withTexts
  if t.values.contains s then
    { t with chains := t.chains.modify (digestOf s % t.width) fun chain =>
      if chain.head? = some s then chain else s :: chain.filter (· ≠ s) }
  else
    let t := t.roomy
    { t with
      values := t.values.insert s .nothing
      chains := t.chains.modify (digestOf s % t.width) (s :: ·) }

/-- Puts the chain of a whole number in order as it is used, and adds it if it is new. -/
def useWhole (t : Table) (n : Int) : Table :=
  let s := toString n
  let size := t.values.size
  if t.plain && 1 ≤ n && n ≤ size then t
  else
    let t := t.unfolded
    let chain := t.wholes.getD (placeOf t.width n) []
    if chain.head? = some n then t
    else if chain.contains n then
      { t with wholes := t.wholes.modify (placeOf t.width n) fun chain =>
        n :: chain.filter (· ≠ n) }
    else
      let t := if t.byText then t.useText s
        else
          let t := t.roomy
          { t with values := t.values.insert s .nothing }
      { t with wholes := t.wholes.modify (placeOf t.width n) (n :: ·) }

/-- Uses a key, which is there afterwards. -/
def use (t : Table) : Key → Table
  | .text s => t.useText s
  | .whole n => t.useWhole n

/-- Whether a key is there. -/
def has (t : Table) (k : Key) : Bool := t.values.contains k.toText

/-- The value of a key. -/
def get (t : Table) (k : Key) : Value := (t.values.get? k.toText).getD .nothing

/-- Uses a key if it is there. -/
def look (t : Table) (k : Key) : Table :=
  if t.has k then t.use k
  else
    match k with
    | .text _ => if t.values.isEmpty then t else t.withTexts
    | .whole _ => t

/-- Gives a key a value. -/
def put (t : Table) (k : Key) (v : Value) : Table :=
  let t := t.use k
  { t with values := t.values.insert k.toText v }

/-- Takes a key away. -/
def erase (t : Table) (k : Key) : Table :=
  if !t.has k then t
  else
    let s := k.toText
    let t := (t.unfolded).use k
    let t := { t with values := t.values.erase s }
    if t.values.isEmpty then {}
    else
      let t := { t with chains := t.chains.modify (digestOf s % t.width) (·.filter (· ≠ s)) }
      match Numeral.integer? s with
      | some (n, "") =>
          if toString n = s then
            { t with wholes := t.wholes.modify (placeOf t.width n) (·.filter (· ≠ n)) }
          else t
      | _ => t

/-- The array of values, by the first whole numbers. -/
def ofValues (values : List Value) : Table :=
  if values.isEmpty then {}
  else
    { plain := true
      values := values.zipIdx.foldl (fun m (v, i) => m.insert (toString (i + 1)) v) {} }

/-- The keys in their order, and the array afterwards. -/
def keys (t : Table) : List String × Table :=
  if t.values.isEmpty then ([], t)
  else
    let t := t.withTexts
    (t.chains.toList.flatten, t)

end Table

end WasmBinary.Machine.Script.Tool.Records
