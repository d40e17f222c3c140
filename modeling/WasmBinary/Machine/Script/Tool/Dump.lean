/-
  Dumps of files.

  1. **A column** shows so many bytes together, in a field of a width that is enough for all of
     them: integers with or without a sign, in octal or hexadecimal digits, numbers with a floating
     point, and characters by their escapes or names.

  2. **Types** ask for columns by a letter and a size, one behind the other.

  3. **Rows** have the offset of their bytes in front, and for each column type a line.  The columns
     of all types are spread so that the lines have the same width.  Rows that repeat the one before
     them are shown as a star.

  4. **Texts** — instead of rows, the texts that end with a zero byte can be shown.

  5. **Offsets** may be given as operands, in an old form, and may count from a label.
-/
import WasmBinary.Machine.Script.Floating
import WasmBinary.Machine.Script.Tool.Basic

namespace WasmBinary.Machine.Script.Tool.Dump

/-- How bytes are shown in columns. -/
structure Column where
  /-- How many bytes are shown together. -/
  size : Nat
  width : Nat
  /-- How the bytes are shown, the first of which counts least. -/
  render : List Char → String
  /-- Whether the characters are shown at the end of a row. -/
  closing : Bool := false

/-- The number of bytes, the first of which counts least. -/
def littleEndian (cs : List Char) : Nat := cs.foldr (fun c n => n * 256 + c.toNat) 0

/-- The names of the characters that cannot be seen. -/
def unseenNames : List String :=
  ["nul", "soh", "stx", "etx", "eot", "enq", "ack", "bel", "bs", "ht", "nl", "vt", "ff", "cr", "so",
    "si", "dle", "dc1", "dc2", "dc3", "dc4", "nak", "syn", "etb", "can", "em", "sub", "esc", "fs",
    "gs", "rs", "us", "sp"]

/-- The name of a character; its highest bit does not count. -/
def characterName (c : Char) : String :=
  let n := c.toNat % 128
  if n = 127 then "del" else unseenNames.getD n (Char.ofNat n).toString

/-- A character, or how it is escaped. -/
def characterEscape (c : Char) : String :=
  match c.toNat with
  | 0 => "\\0"
  | 7 => "\\a"
  | 8 => "\\b"
  | 9 => "\\t"
  | 10 => "\\n"
  | 11 => "\\v"
  | 12 => "\\f"
  | 13 => "\\r"
  | n => if isPrintable c then c.toString else String.ofList ((Nat.toDigits 8 n).leftpad 3 '0')

/-- How many digits the greatest number of so many bytes has. -/
def digitCount (base size : Nat) : Nat := (Nat.toDigits base (Nat.pow 256 size - 1)).length

/-- A column of digits with zeros in front. -/
def digitColumn (base size : Nat) (fill : Char) : Column :=
  let width := digitCount base size
  { size, width
    render := fun cs => String.ofList ((Nat.toDigits base (littleEndian cs)).leftpad width fill) }

/-- A column of integers with signs. -/
def signedColumn (size : Nat) : Column :=
  { size, width := (Nat.toDigits 10 (Nat.pow 256 size / 2)).length + 1
    render := fun cs =>
      let n := littleEndian cs
      toString (if Nat.pow 256 size / 2 ≤ n then (n : Int) - Nat.pow 256 size else n) }

/-- A column of numbers with a floating point. -/
def floatColumn (size : Nat) : Column :=
  let (kind, width, used) := match size with
    | 4 => (FloatKind.single, 15, 4)
    | 8 => (FloatKind.double, 24, 8)
    | _ => (FloatKind.extended, 29, 10)
  { size, width
    render := fun cs =>
      let x := Floating.ofBits kind (littleEndian (cs.take used))
      x.shortest kind }

/-- A type that was asked for cannot be shown. -/
def wrongType (type : String) : String := "invalid type string " ++ cited type

/-- The size in front of a type, by a letter or a number, and what follows it; the letters come with
    the sizes that they mean. -/
def sizeOf? (type : String) (letters : List (Char × Nat)) (standard : Nat) (cs : List Char) :
    Except String (Nat × List Char) :=
  match cs with
  | [] => .ok (standard, [])
  | c :: rest =>
      match letters.lookup c with
      | some size => .ok (size, rest)
      | none =>
          let digits := cs.takeWhile Char.isDigit
          let n := Nat.ofDigitChars 10 digits 0
          if digits.isEmpty then .ok (standard, cs)
          else if Nat.pow 2 31 ≤ n then .error (wrongType type)
          else .ok (n, cs.drop digits.length)

/-- The column of a letter, and what follows its size. -/
def columnOf (type : String) (letter : Char) (rest : List Char) :
    Except String (Column × List Char) := do
  let lacking (size : Nat) (what : String) : String :=
    wrongType type ++ ";\nthis system doesn't provide a " ++ toString size ++ "-byte " ++ what ++
      " type"
  match letter with
  | 'a' => return ({ size := 1, width := 3, render := fun cs => (cs.map characterName).headD "" },
      rest)
  | 'c' => return ({ size := 1, width := 3, render := fun cs => (cs.map characterEscape).headD "" },
      rest)
  | 'f' =>
      let (size, rest) ← sizeOf? type [('F', 4), ('D', 8), ('L', 16)] 8 rest
      if !([4, 8, 16].contains size) then throw (lacking size "floating point")
      return (floatColumn size, rest)
  | _ =>
      if !"doux".toList.contains letter then
        throw ("invalid character '" ++ letter.toString ++ "' in type string " ++ cited type)
      let (size, rest) ← sizeOf? type [('C', 1), ('S', 2), ('I', 4), ('L', 8)] 4 rest
      if !([1, 2, 4, 8].contains size) then throw (lacking size "integral")
      return (match letter with
        | 'o' => digitColumn 8 size '0'
        | 'x' => digitColumn 16 size '0'
        | 'u' => digitColumn 10 size ' '
        | _ => signedColumn size, rest)

/-- The columns that a type asks for. -/
def columnsWithin (type : String) : Nat → List Char → Except String (List Column)
  | 0, _ | _, [] => .ok []
  | n + 1, letter :: rest => do
      let (column, rest) ← columnOf type letter rest
      match rest with
      | 'z' :: rest => return { column with closing := true } :: (← columnsWithin type n rest)
      | rest => return column :: (← columnsWithin type n rest)

/-- The columns that a type asks for. -/
def columnsOf (type : String) : Except String (List Column) :=
  columnsWithin type type.length type.toList

/-- The type that a letter alone stands for. -/
def typeOfLetter? (letter : String) : Option String :=
  match letter with
  | "a" => some "a"
  | "b" => some "o1"
  | "c" => some "c"
  | "D" => some "u4"
  | "d" => some "u2"
  | "F" | "e" => some "fD"
  | "f" => some "fF"
  | "X" | "H" => some "x4"
  | "i" => some "dI"
  | "I" | "L" | "l" => some "dL"
  | "O" => some "o4"
  | "B" | "o" => some "o2"
  | "s" => some "d2"
  | "h" | "x" => some "x2"
  | _ => none

end WasmBinary.Machine.Script.Tool.Dump

namespace WasmBinary.Machine.Script.Tool

open Run

namespace Dump

/-! ## Settings -/

/-- How a dump is made. -/
structure Settings where
  columns : List Column := []
  /-- The base of the offsets, and how many digits they have, unless they are left out. -/
  offsets : Option (Nat × Nat) := some (8, 7)
  skipped : Nat := 0
  limit : Option Nat := none
  /-- The least length of texts, where texts are to be shown. -/
  texts : Option Nat := none
  repeats : Bool := false
  width : Option Nat := none
  bigEndian : Bool := false
  /-- Whether offsets as operands belong to the form that is used. -/
  modern : Bool := false
  traditional : Bool := false
  /-- Where labels start, where there are labels. -/
  label : Option Nat := none
  mistakes : List String := []

/-- The amount that the value of an option is. -/
def amountOf (option : Given) (base : Nat := 0) (allowed : String := "bEGKkMmPQRTYZ0") :
    Except Misuse Nat :=
  let name := if option.long then option.written else "-" ++ option.key
  match amountInBase base allowed option.value with
  | .ok n => .ok n
  | .error .tooLarge | .error .outOfRange =>
      .error (.plain (name ++ " argument '" ++ option.value ++ "' too large"))
  | .error .suffix =>
      .error (.plain ("invalid suffix in " ++ name ++ " argument '" ++ option.value ++ "'"))
  | .error .invalid => .error (.plain ("invalid " ++ name ++ " argument '" ++ option.value ++ "'"))

/-- What an option adds. -/
def Settings.add (s : Settings) (option : Given) : Except Misuse Settings := do
  let typed (type : String) : Settings :=
    match columnsOf type with
    | .ok columns => { s with columns := s.columns ++ columns }
    | .error text => { s with mistakes := s.mistakes ++ [text] }
  let modern := { s with modern := true }
  match option.key with
  | "A" =>
      match option.value.toList.head? with
      | some 'd' => return { modern with offsets := some (10, 7) }
      | some 'o' => return { modern with offsets := some (8, 7) }
      | some 'x' => return { modern with offsets := some (16, 6) }
      | some 'n' => return { modern with offsets := none }
      | c =>
          let shownLetter := (c.map Char.toString).getD "\x00"
          throw (.plain ("invalid output address radix '" ++ shownLetter ++
            "'; it must be one character from [doxn]"))
  | "j" => return { modern with skipped := ← amountOf option }
  | "N" => return { modern with limit := some (← amountOf option) }
  | "S" =>
      return { modern with texts := some (← if option.valued then amountOf option else pure 3) }
  | "t" => return { typed option.value with modern := true }
  | "v" => return { modern with repeats := true }
  | "w" =>
      return { modern with
        width := some (← if option.valued then amountOf option 10 "" else pure 32) }
  | "traditional" => return { s with traditional := true }
  | "endian" =>
      let word ← choiceOf ["little", "big"] option.value "--endian"
      return { s with bigEndian := word = "big" }
  | key => return typed ((typeOfLetter? key).getD "o2")

/-! ## Offsets as operands -/

/-- The offset that an operand is: hexadecimal behind `0x`, or octal; a letter behind it may be a
    multiplier. -/
def oldOffset? (operand : String) : Option Nat :=
  let cs := operand.toList
  match if cs.head? = some '+' then cs.drop 1 else cs with
  | '0' :: x :: digits =>
      if (x = 'x' || x = 'X') && digits.head?.any Numeral.isHex then
        (amountInBase 16 "Bb" (String.ofList digits)).toOption
      else (amountInBase 8 "Bb" (String.ofList ('0' :: x :: digits))).toOption
  | cs => (amountInBase 8 "Bb" (String.ofList cs)).toOption

/-- Takes offsets out of the operands: what is set by them, and the files that are left. -/
def Settings.takeOffsets (s : Settings) (operands : List String) :
    Except Misuse (Settings × List String) :=
  let looksOld (operand : String) (orDigit : Bool) : Bool :=
    s.traditional || operand.startsWith "+" ||
      (orDigit && (operand.toList.head?).any Char.isDigit)
  let found : Option (Settings × List String) :=
    match operands with
    | [a] => do
        if looksOld a false then return ({ s with skipped := ← oldOffset? a }, []) else none
    | [a, b] => do
        if !looksOld b true then none
        else
          let second ← oldOffset? b
          match if s.traditional then oldOffset? a else none with
          | some first => return ({ s with skipped := first, label := some second }, [])
          | none => return ({ s with skipped := second }, [a])
    | [a, b, c] => do
        if !s.traditional then none
        else return ({ s with skipped := ← oldOffset? b, label := some (← oldOffset? c) }, [a])
    | _ => none
  if s.modern && !s.traditional then .ok (s, operands)
  else
    let (s, files) := found.getD (s, operands)
    match files with
    | _ :: extra :: _ =>
        if s.traditional then
          .error { lines := ["extra operand " ++ cited extra,
            "compatibility mode supports at most one file"], everyLine := true }
        else .ok (s, files)
    | _ => .ok (s, files)

/-! ## Rows -/

/-- Cuts a list into pieces of a length. -/
def chunks {α : Type} (size : Nat) : Nat → List α → List (List α)
  | 0, _ | _, [] => []
  | n + 1, xs => xs.take size :: chunks size n (xs.drop size)

/-- How rows are made. -/
structure Layout where
  columns : List Column
  perRow : Nat
  offsets : Option (Nat × Nat)
  bigEndian : Bool
  /-- How far labels are from offsets. -/
  label : Option Int

/-- An offset, and its label. -/
def Layout.offset (d : Layout) (n : Nat) : String :=
  let digits (base width : Nat) (n : Nat) : String :=
    String.ofList ((Nat.toDigits base n).leftpad width '0')
  match d.offsets, d.label with
  | some (base, width), none => digits base width n
  | some (base, width), some shift =>
      digits base width n ++ " (" ++ digits base width ((n : Int) + shift).toNat ++ ")"
  | none, some _ => "(" ++ digits 8 7 n ++ ")"
  | none, none => ""

/-- How wide the margin of further lines is. -/
def Layout.margin (d : Layout) : Nat :=
  match d.offsets, d.label with
  | some (_, width), none => width
  | some (_, width), some _ => width
  | none, some _ => 7
  | none, none => 0

/-- How wide a row is. -/
def Layout.widest (d : Layout) : Nat :=
  (d.columns.map fun c => (c.width + 1) * (d.perRow / c.size)).foldl max 0

/-- The line of a column type. -/
def Layout.line (d : Layout) (row : List Char) (column : Column) : String :=
  let count := d.perRow / column.size
  let spare := d.widest - column.width * count
  let filledRow := row.rightpad ((row.length + column.size - 1) / column.size * column.size)
    (Char.ofNat 0)
  let fields := chunks column.size row.length filledRow
  let cells := fields.zipIdx.map fun (cs, i) =>
    let space := spare * (count - i) / count - spare * (count - i - 1) / count
    let cs := if d.bigEndian then cs.reverse else cs
    String.ofList ((column.render cs).toList.leftpad (column.width + space) ' ')
  let text := String.join cells
  if column.closing then
    let missing := count - fields.length
    let blanks := missing * column.width + spare * missing / count
    let characters := row.map fun c => if isPrintable c then c else '.'
    text.pushn ' ' blanks ++ "  >" ++ String.ofList characters ++ "<"
  else text

/-- The lines of a row. -/
def Layout.row (d : Layout) (offset : Nat) (row : List Char) : String :=
  String.join <| d.columns.zipIdx.map fun (column, i) =>
    (if i = 0 then d.offset offset else "".pushn ' ' d.margin) ++ d.line row column ++ "\n"

/-- The rows from an offset on, each with the offset behind it.  A row that repeats the one before
    it is shown as a star. -/
def Layout.rows (d : Layout) (repeats : Bool) (offset : Nat) (last : Option (List Char))
    (starred : Bool) : List (List Char) → List (Nat × String)
  | [] => []
  | row :: rest =>
      let next := offset + row.length
      if !repeats && last = some row && row.length = d.perRow then
        (next, if starred then "" else "*\n") :: d.rows repeats next last true rest
      else (next, d.row offset row) :: d.rows repeats next (some row) false rest

/-! ## Texts -/

/-- The texts of at least a length that a zero byte ends, each with the offset behind it. -/
def Layout.texts (d : Layout) (least : Nat) : List Char → Nat → List Char → List (Nat × String)
  | [], _, _ => []
  | c :: rest, offset, held =>
      if isPrintable c then d.texts least rest (offset + 1) (c :: held)
      else
        let more := d.texts least rest (offset + 1) []
        if c.toNat = 0 && least ≤ held.length then
          let front := d.offset (offset - held.length)
          (offset + 1, (if front = "" then "" else front ++ " ") ++
            String.ofList held.reverse ++ "\n") :: more
        else more

/-! ## Dumping -/

/-- Something that is wrong with a file. -/
structure Complaint where
  /-- How long the text in front of it is. -/
  position : Nat
  text : String
  /-- Whether no file had been opened before. -/
  early : Bool

/-- What is read of the files: the text, if any could be opened, and what is wrong with some of
    them. -/
def textOfFiles (s : Settings) (files : List String) : Run (Option String × List Complaint) := do
  let appetite := match s.limit with
    | some n => Appetite.upTo (s.skipped + n)
    | none => .flow
  let enough (text : String) : Bool := s.limit.any fun n => s.skipped + n ≤ text.length
  let mut found : Option String := none
  let mut complaints : List Complaint := []
  for path in files do
    let text := found.getD ""
    let complaint (fault : FileFault) (early : Bool) : Complaint :=
      ⟨text.length, shown path ++ ": " ++ fault.words, early⟩
    unless found.any enough do
      match ← openOperand path with
      | .error fault => complaints := complaints ++ [complaint fault found.isNone]
      | .ok number =>
          match ← readOpened number appetite with
          | .ok data => found := some (text ++ ByteText.ofBytes data)
          | .error fault =>
              complaints := complaints ++ [complaint fault false]
              found := some text
  return (found, complaints)

/-- Writes rows, and says what is wrong with files where it is found.  Only whole rows are written
    in front of that. -/
def writeRows (self : String) (whole : Nat) : List (Nat × String) → List Complaint → Run Unit
  | [], complaints => for c in complaints do say self c.text
  | (next, row) :: rows, complaints => do
      let (before, after) := complaints.span fun c => whole < next || c.position < next
      for c in before do say self c.text
      emit row
      writeRows self whole rows after

/-- The bytes that are shown as rows, and what is said about files meanwhile.  Where something is
    wrong with a file, the row that it is found in is the last that is read, if it is a whole one;
    the row in front of it is shown once more. -/
def shownBytes (perRow skipped : Nat) (cs : List Char) (complaints : List Complaint) :
    List Char × List Complaint :=
  match complaints.find? fun c => !c.early with
  | none => (cs, complaints)
  | some c =>
      let row := (c.position - skipped) / perRow * perRow
      if cs.length < row + perRow then (cs, complaints)
      else
        let before := if row = 0 then List.replicate perRow (Char.ofNat 0)
          else (cs.drop (row - perRow)).take perRow
        (cs.take (row + perRow) ++ before,
          complaints.filter fun c => c.position < skipped + row + perRow)

/-- Dumps a text. -/
def Settings.show (s : Settings) (self text : String) (complaints : List Complaint) : Run Unit := do
  let cs := text.toList.drop s.skipped
  let cs := (s.limit.map fun n => cs.take n).getD cs
  let columns := if s.columns.isEmpty then [digitColumn 8 2 '0'] else s.columns
  let unit := (columns.map Column.size).foldl Nat.lcm 1
  let perRow ← match s.width with
    | none => pure (if unit < 16 then unit * (16 / unit) else unit)
    | some width =>
        if width = 0 then throw (.signalled 6)
        else if width % unit = 0 then pure width
        else do
          say self ("warning: invalid width " ++ toString width ++ "; using " ++ toString unit ++
            " instead")
          pure unit
  let layout : Layout :=
    { columns, perRow, offsets := s.offsets, bigEndian := s.bigEndian
      label := s.label.map fun label => (label : Int) - s.skipped }
  match s.texts with
  | some least =>
      writeRows self (s.skipped + cs.length) (layout.texts least cs s.skipped []) complaints
  | none =>
      let (cs, complaints) := shownBytes perRow s.skipped cs complaints
      let rows := layout.rows s.repeats s.skipped none false (chunks perRow (cs.length + 1) cs)
      writeRows self (s.skipped + cs.length / perRow * perRow) rows complaints
      let last := layout.offset (s.skipped + cs.length)
      unless last = "" do emit (last ++ "\n")

/-- The options of `od`. -/
def choices : String :=
  "j,skip-bytes= A,address-radix= N,read-bytes= t,format= v,output-duplicates S,strings=? " ++
    "--traditional w,width=? --endian= a B b c D d e F f H h I i L l O o s X x"

end Dump

/-- Arguments where the letter for texts takes the next word, though its long name does not. -/
def withTextLength (arguments : List String) : List String :=
  match arguments with
  | "-S" :: value :: rest => ("-S" ++ value) :: withTextLength rest
  | "--" :: rest => "--" :: rest
  | word :: rest => word :: withTextLength rest
  | [] => []

/-- Shows bytes as numbers or characters. -/
def dump : Tool := fun self arguments =>
  withSettings Dump.choices {} Dump.Settings.add self (withTextLength arguments)
    fun s operands => do
      for text in s.mistakes do say self text
      if !s.mistakes.isEmpty then return ← finish 1
      if s.texts.isSome && !s.columns.isEmpty then
        return ← fail self "no type may be specified when dumping strings"
      match s.takeOffsets operands with
      | .error m => m.report self 1
      | .ok (s, files) =>
          if s.limit.any fun n => Nat.pow 2 64 ≤ s.skipped + n then
            return ← fail self "skip-bytes + read-bytes is too large"
          let (text, complaints) ← Dump.textOfFiles s (orInput files)
          match text with
          | none =>
              for c in complaints do say self c.text
              finish 1
          | some text =>
              if text.length < s.skipped then
                for c in complaints do say self c.text
                fail self "cannot skip past end of combined input"
              else
                s.show self text complaints
                finishWith complaints.isEmpty

end WasmBinary.Machine.Script.Tool
