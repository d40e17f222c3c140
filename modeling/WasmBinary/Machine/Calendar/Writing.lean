/-
  Dates as texts.

  A format is a text in which a percent sign and a letter stand for a field.  Between them there
  may be flags for how the field is filled up, which case its letters have, and a width.
-/
import WasmBinary.Machine.Calendar.Basic

namespace WasmBinary.Machine.Calendar

/-- A moment as it is written: the date in its zone, and the seconds of universal time. -/
structure Moment where
  civil : Civil
  zone : Zone
  seconds : Int

/-- The moment of a number of nanoseconds in a zone. -/
def Moment.ofNanoseconds (n : Int) (zone : Zone) : Moment :=
  let seconds := Int.fdiv n 1000000000
  { civil := .ofSeconds (seconds + zone.offset) (n - seconds * 1000000000), zone, seconds }

/-- The flags and the width of a field. -/
structure FieldStyle where
  /-- What fills it up, if something else than usual. -/
  fill : Option (Option Char) := none
  upper : Bool := false
  swapped : Bool := false
  width : Option Nat := none
  colons : Nat := 0
  plus : Bool := false

/-- A number with a sign if it is negative, filled up to a width. -/
def FieldStyle.number (s : FieldStyle) (usual : Char) (digits : Nat) (n : Int) : String :=
  let fill := s.fill.getD (some usual)
  let sign := if n < 0 then ['-'] else []
  let text := Nat.toDigits 10 n.natAbs
  let width := s.width.getD digits
  String.ofList <| match fill with
    | none => sign ++ (match s.width with
        | some w => text.leftpad (w - sign.length) '0'
        | none => text)
    | some '0' => sign ++ text.leftpad (width - sign.length) '0'
    | some c => (sign ++ text).leftpad width c

/-- Letters, filled up to a width. -/
def FieldStyle.letters (s : FieldStyle) (text : String) (swapsDown : Bool := false) : String :=
  let text := if s.upper then text.map Char.toUpper
    else if s.swapped then (if swapsDown then text.map Char.toLower else text.map Char.toUpper)
    else text
  let fill := match s.fill with
    | some (some '0') => '0'
    | _ => ' '
  if s.fill = some none then text
  else String.ofList (text.toList.leftpad (s.width.getD 0) fill)

/-- An offset from universal time, with so many colons in it. -/
def FieldStyle.offset (s : FieldStyle) (offset : Int) : String :=
  let sign := if offset < 0 then "-" else "+"
  let n := offset.natAbs
  let two (n : Nat) : String := String.ofList ((Nat.toDigits 10 n).leftpad 2 '0')
  let (h, m, sec) := (n / 3600, n / 60 % 60, n % 60)
  let body := match s.colons with
    | 0 => two h ++ two m
    | 1 => two h ++ ":" ++ two m
    | 2 => two h ++ ":" ++ two m ++ ":" ++ two sec
    | _ =>
        if sec != 0 then two h ++ ":" ++ two m ++ ":" ++ two sec
        else if m != 0 then two h ++ ":" ++ two m else two h
  let width := s.width.getD 0
  match s.fill with
  | some none => sign ++ String.ofList (body.toList.dropWhile (· = '0') |> fun cs =>
      if cs.isEmpty then ['0'] else cs)
  | some (some ' ') => String.ofList ((sign ++ body).toList.leftpad width ' ')
  | _ => sign ++ String.ofList (body.toList.leftpad (width - 1) '0')

/-- The digits of nanoseconds, as many as the width asks for. -/
def FieldStyle.nanoseconds (s : FieldStyle) (n : Int) : String :=
  let digits := (Nat.toDigits 10 n.natAbs).leftpad 9 '0'
  let width := s.width.getD 9
  if s.fill = some none && s.width.isNone then
    let bare := (digits.reverse.dropWhile (· = '0')).reverse
    String.ofList (if bare.isEmpty then ['0'] else bare)
  else String.ofList (if width ≤ 9 then digits.take width else digits.rightpad width '0')

/-- The field of a letter, where it is a simple one. -/
def Moment.field? (m : Moment) (s : FieldStyle) (letter : Char) : Option String :=
  let c := m.civil
  let nameOf (names : List String) (i : Int) : String := names.getD i.toNat "?"
  let twelve := if c.hour % 12 = 0 then 12 else c.hour % 12
  match letter with
  | '%' => some (s.letters "%")
  | 'n' => some (s.letters "\n")
  | 't' => some (s.letters "\t")
  | 'a' => some (s.letters (shortName (nameOf dayNames c.weekday)))
  | 'A' => some (s.letters (nameOf dayNames c.weekday))
  | 'b' | 'h' => some (s.letters (shortName (nameOf monthNames (c.month - 1))))
  | 'B' => some (s.letters (nameOf monthNames (c.month - 1)))
  | 'C' => some (s.number '0' 2 (Int.fdiv c.year 100))
  | 'd' => some (s.number '0' 2 c.day)
  | 'e' => some (s.number ' ' 2 c.day)
  | 'g' => some (s.number '0' 2 (Int.fmod c.isoWeek.1 100))
  | 'G' => some (s.number '0' 4 c.isoWeek.1)
  | 'H' => some (s.number '0' 2 c.hour)
  | 'I' => some (s.number '0' 2 twelve)
  | 'j' => some (s.number '0' 3 (c.dayOfYear + 1))
  | 'k' => some (s.number ' ' 2 c.hour)
  | 'l' => some (s.number ' ' 2 twelve)
  | 'm' => some (s.number '0' 2 c.month)
  | 'M' => some (s.number '0' 2 c.minute)
  | 'N' => some (s.nanoseconds c.nanosecond)
  | 'p' => some (s.letters (if 12 ≤ c.hour then "PM" else "AM") true)
  | 'P' => some ((if 12 ≤ c.hour then "pm" else "am"))
  | 'q' => some (s.number '0' 1 ((c.month - 1) / 3 + 1))
  | 's' => some (s.number '0' 1 m.seconds)
  | 'S' => some (s.number '0' 2 c.second)
  | 'u' => some (s.number '0' 1 (if c.weekday = 0 then 7 else c.weekday))
  | 'U' => some (s.number '0' 2 (c.weekFrom 0))
  | 'V' => some (s.number '0' 2 c.isoWeek.2)
  | 'w' => some (s.number '0' 1 c.weekday)
  | 'W' => some (s.number '0' 2 (c.weekFrom 1))
  | 'y' => some (s.number '0' 2 (Int.fmod c.year 100))
  | 'Y' => some (s.number '0' (if c.year < 0 then 5 else 4) c.year)
  | 'z' => some (s.offset m.zone.offset)
  | 'Z' => some (s.letters m.zone.name true)
  | _ => none

/-- What a letter stands for that is a format itself. -/
def compound? (letter : Char) : Option String :=
  match letter with
  | 'c' => some "%a %b %e %H:%M:%S %Y"
  | 'D' => some "%m/%d/%y"
  | 'F' => some "%Y-%m-%d"
  | 'r' => some "%I:%M:%S %p"
  | 'R' => some "%H:%M"
  | 'T' => some "%H:%M:%S"
  | 'x' => some "%m/%d/%y"
  | 'X' => some "%H:%M:%S"
  | '+' => some "%a %b %e %H:%M:%S %Z %Y"
  | _ => none

/-- The flags in front of a field, and what follows them. -/
def FieldStyle.flags (s : FieldStyle) : List Char → FieldStyle × List Char
  | '_' :: rest => { s with fill := some (some ' ') }.flags rest
  | '-' :: rest => { s with fill := some none }.flags rest
  | '0' :: rest => { s with fill := some (some '0') }.flags rest
  | '+' :: rest => { s with fill := some (some '0'), plus := true }.flags rest
  | '^' :: rest => { s with upper := true }.flags rest
  | '#' :: rest => { s with swapped := true }.flags rest
  | rest => (s, rest)

/-- A moment as a format asks for.  The number bounds how deeply formats stand for formats. -/
def Moment.format (m : Moment) : Nat → List Char → String
  | 0, _ => ""
  | _, [] => ""
  | n + 1, '%' :: rest =>
      let (style, behind) := FieldStyle.flags {} rest
      let digits := behind.takeWhile Char.isDigit
      let behind := behind.drop digits.length
      let colons := behind.takeWhile (· = ':')
      let behind := behind.drop colons.length
      let behind := match behind with
        | 'E' :: c :: more => if colons.isEmpty then c :: more else behind
        | 'O' :: c :: more => if colons.isEmpty then c :: more else behind
        | _ => behind
      let style := { style with
        width := if digits.isEmpty then none else some (Nat.ofDigitChars 10 digits 0)
        colons := colons.length }
      match behind with
      | [] => "%" ++ String.ofList rest
      | letter :: more =>
          let written := "%" ++ String.ofList (rest.take (rest.length - more.length))
          let text := if !colons.isEmpty && (letter ≠ 'z' || 3 < colons.length) then written
            else
              match m.field? style letter, compound? letter with
              | some text, _ => text
              | none, some format => style.letters (m.format n format.toList)
              | none, none => written
          text ++ m.format n more
  | n + 1, c :: rest => c.toString ++ m.format n rest

/-- A moment as a format asks for. -/
def Moment.text (m : Moment) (format : String) : String :=
  m.format (2 * format.length + 64) format.toList

end WasmBinary.Machine.Calendar
