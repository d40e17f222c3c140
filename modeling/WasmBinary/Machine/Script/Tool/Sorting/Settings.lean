/-
  What the options of sorting come to.

  1. **Keys** are described by numbers of fields and characters, with letters behind them.

  2. **Old keys** start with a plus sign and end with a hyphen; their numbers start at zero.

  3. **Limits** are read, so that mistakes in them are found; they change nothing.
-/
import WasmBinary.Machine.Script.Tool.Sorting.Order

namespace WasmBinary.Machine.Script.Tool.Sorting

/-- Something wrong, without a hint. -/
def refused (text : String) : Misuse := { Misuse.plain text with status := some 2 }

/-! ## Keys -/

/-- A text that describes no key. -/
def badKey (text why : String) : Misuse :=
  refused (why ++ ": invalid field specification " ++ cited text)

/-- The number in front of a text, and what follows it. -/
def countIn (cs : List Char) (why : String) : Except Misuse (Nat × List Char) :=
  let digits := cs.takeWhile Char.isDigit
  if digits.isEmpty then
    .error (refused (why ++ ": invalid count at start of " ++ cited (String.ofList cs)))
  else .ok (Nat.ofDigitChars 10 digits 0, cs.drop digits.length)

/-- The order that letters ask for on top of another one, and what follows them. -/
def lettersIn (front back : Bool) : Order → List Char → Order × List Char
  | o, [] => (o, [])
  | o, c :: rest =>
      match o.add? front back c with
      | some o => lettersIn front back o rest
      | none => (o, c :: rest)

/-- The end of a key that a text describes behind its comma, with the order of the key. -/
def keyEnd (text : String) (cs : List Char) (k : Key) : Except Misuse (Key × List Char) := do
  let (field, cs) ← countIn cs "invalid number after ','"
  if field = 0 then throw (badKey text "field number is zero")
  let (count, cs) ← match cs with
    | '.' :: rest => countIn rest "invalid number after '.'"
    | cs => pure (0, cs)
  let (order, cs) := lettersIn false true k.order cs
  return ({ k with last := some (field - 1, count), order }, cs)

/-- The key that a text describes. -/
def keyOf (text : String) : Except Misuse Key := do
  let (field, cs) ← countIn text.toList "invalid number at field start"
  if field = 0 then throw (badKey text "field number is zero")
  let (char, cs) ← match cs with
    | '.' :: rest => do
        let (char, cs) ← countIn rest "invalid number after '.'"
        if char = 0 then throw (badKey text "character offset is zero")
        pure (char, cs)
    | cs => pure (1, cs)
  let (order, cs) := lettersIn true false {} cs
  let k : Key := { field := field - 1, char := char - 1, order }
  let (k, cs) ← match cs with
    | ',' :: rest => keyEnd text rest k
    | cs => pure (k, cs)
  if !cs.isEmpty then throw (badKey text "stray character in field spec")
  return k

/-- The start of a key that a word with a plus sign describes, if it does. -/
def oldStart? (word : String) : Option Key :=
  match word.toList with
  | '+' :: cs =>
      match countIn cs "" with
      | .error _ => none
      | .ok (field, cs) =>
          let char := match cs with
            | '.' :: rest => (countIn rest "").toOption
            | cs => some (0, cs)
          match char with
          | none => none
          | some (char, cs) =>
              let (order, cs) := lettersIn true false {} cs
              if cs.isEmpty then some { field, char, order } else none
  | _ => none

/-- The key that ends as a word with a hyphen describes. -/
def oldEnd (k : Key) (word : String) : Except Misuse Key := do
  let (field, cs) ← countIn (word.toList.drop 1) "invalid number after '-'"
  let (count, cs) ← match cs with
    | '.' :: rest => countIn rest "invalid number after '.'"
    | cs => pure (0, cs)
  let (order, cs) := lettersIn false true k.order cs
  if !cs.isEmpty then throw (badKey word "stray character in field spec")
  let last := if count = 0 && field ≠ 0 then (field - 1, 0) else (field, count)
  return { k with last := some last, order }

/-! ## Settings -/

/-- What is to be done with the lines. -/
structure Settings where
  order : Order := {}
  keys : List Key := []
  separator : Option Char := none
  stable : Bool := false
  unique : Bool := false
  merges : Bool := false
  /-- The letter of the check that is wanted. -/
  checks : Option Char := none
  output : Option String := none
  ending : Char := '\n'
  namesFrom : Option String := none

namespace Settings

/-- The comparison that the settings come to.  A key without an order has the order of all. -/
def comparison (s : Settings) : Comparison :=
  let keys := s.keys.map fun k => if k.order.isPlain then { k with order := s.order } else k
  let keys := if keys.isEmpty && { s.order with reversed := false } != {} then
    [({ order := s.order } : Key)] else keys
  { keys, separator := s.separator, wholly := !s.stable && !s.unique, reversed := s.order.reversed }

/-- Says which options cannot be wanted together. -/
def conflict {α : Type} (letters : String) : Except Misuse α :=
  .error (refused ("options '-" ++ letters ++ "' are incompatible"))

/-- Sets the character between fields. -/
def separated (s : Settings) (text : String) : Except Misuse Settings := do
  let c ← match text.toList with
    | [] => throw (refused "empty tab")
    | [c] => pure c
    | ['\\', '0'] => pure '\x00'
    | _ => throw (refused ("multi-character tab " ++ cited text))
  if s.separator.any fun other => other ≠ c then throw (refused "incompatible tabs")
  return { s with separator := some c }

/-- Asks for a check. -/
def checked (s : Settings) (letter : Char) : Except Misuse Settings :=
  if s.checks.any fun other => other ≠ letter then conflict "cC"
  else .ok { s with checks := some letter }

/-- Reads a limit; mistakes are told with the name of the option. -/
def limit (option allowed text : String) : Except Misuse Nat :=
  let argument := option ++ " argument " ++ cited text
  match amountInBase 10 allowed text with
  | .ok n => .ok n
  | .error .suffix => .error (refused ("invalid suffix in " ++ argument))
  | .error .tooLarge => .error (refused (argument ++ " too large"))
  | .error _ => .error (refused ("invalid " ++ argument))

/-- Checks the size of the memory that may be used. -/
def memory (s : Settings) (text : String) : Except Misuse Settings := do
  let cs := text.toList
  let digits := cs.takeWhile Char.isDigit
  if !digits.isEmpty && (cs.drop digits.length = ['%'] || cs.drop digits.length = ['b']) then
    return s
  let _ ← limit "-S" "EgGkKmMPQRtTYZ" text
  return s

/-- The word that the value of an option means. -/
def wordOf (words : List String) (text option : String) : Except Misuse String :=
  (choiceOf words text option).mapError fun m => { m with status := some 1 }

/-- The letter of the order that a word means. -/
def orderLetter (word : String) : Except Misuse Char := do
  let word ← wordOf ["general-numeric", "human-numeric", "month", "numeric", "random", "version"]
    word "--sort"
  return match word with
    | "general-numeric" => 'g'
    | "human-numeric" => 'h'
    | "month" => 'M'
    | "numeric" => 'n'
    | "random" => 'R'
    | _ => 'V'

/-- What an option adds. -/
def add (s : Settings) (option : Given) : Except Misuse Settings := do
  let value := option.value
  match option.key with
  | "k" => return { s with keys := s.keys ++ [← keyOf value] }
  | "+old" =>
      match value.splitOn "\n" with
      | [first, last] =>
          let k ← oldEnd ((oldStart? first).getD {}) last
          return { s with keys := s.keys ++ [k] }
      | _ => return { s with keys := s.keys ++ [(oldStart? value).getD {}] }
  | "t" => s.separated value
  | "s" => return { s with stable := true }
  | "u" => return { s with unique := true }
  | "m" => return { s with merges := true }
  | "z" => return { s with ending := '\x00' }
  | "c" | "check" =>
      if !option.valued then s.checked 'c'
      else
        let word ← wordOf ["quiet|silent", "diagnose-first"] value "--check"
        s.checked (if word = "quiet" then 'C' else 'c')
  | "C" => s.checked 'C'
  | "o" =>
      if s.output.any fun other => other ≠ value then
        throw (refused "multiple output files specified")
      return { s with output := some value }
  | "S" => s.memory value
  | "parallel" =>
      if (← limit "--parallel" "" value) = 0 then
        throw (refused "number in parallel must be nonzero")
      return s
  | "batch-size" =>
      let n ← limit "--batch-size" "" value
      if n < 2 then
        throw { refused ("invalid --batch-size argument " ++ cited value) with
          lines := ["invalid --batch-size argument " ++ cited value,
            "minimum --batch-size argument is '2'"]
          everyLine := true }
      return s
  | "sort" =>
      let letter ← orderLetter value
      return { s with order := (s.order.add? true true letter).getD s.order }
  | "files0-from" => return { s with namesFrom := some value }
  | key =>
      match key.toList with
      | [c] => return { s with order := (s.order.add? true true c).getD s.order }
      | _ => return s

/-- What is wrong with the settings as a whole. -/
def conflict? (s : Settings) : Option String :=
  (s.comparison.keys.filterMap fun key => key.order.conflict?).head?

end Settings

/-- The options. -/
def choices : String :=
  "b,ignore-leading-blanks --check=? --compress-program= --debug d,dictionary-order " ++
  "f,ignore-case --files0-from= g,general-numeric-sort i,ignore-nonprinting k,key= m,merge " ++
  "M,month-sort n,numeric-sort h,human-numeric-sort V,version-sort R,random-sort " ++
  "--random-source= --sort= o,output= r,reverse s,stable --batch-size= S,buffer-size= " ++
  "t,field-separator= T,temporary-directory= u,unique z,zero-terminated --parallel= --+old= " ++
  "c C y=?"

/-- Whether the value of an option is the next word. -/
def wantsNext (word : String) : Bool :=
  match word.toList with
  | '-' :: c :: rest =>
      c ≠ '-' && "kostSTy".toList.contains ((c :: rest).getLastD c) &&
        !((c :: rest).dropLast.any fun c => "koStTy".toList.contains c)
  | _ => false

/-- The arguments with old keys in the form of options. -/
def withoutOldKeys : List String → List String
  | [] => []
  | "--" :: rest => "--" :: rest
  | word :: next :: rest =>
      if wantsNext word then word :: next :: withoutOldKeys rest
      else if (oldStart? word).isSome then
        match next.toList with
        | '-' :: c :: _ =>
            if c.isDigit then ("--+old=" ++ word ++ "\n" ++ next) :: withoutOldKeys rest
            else ("--+old=" ++ word) :: withoutOldKeys (next :: rest)
        | _ => ("--+old=" ++ word) :: withoutOldKeys (next :: rest)
      else word :: withoutOldKeys (next :: rest)
  | [word] => [if (oldStart? word).isSome then "--+old=" ++ word else word]

end WasmBinary.Machine.Script.Tool.Sorting
