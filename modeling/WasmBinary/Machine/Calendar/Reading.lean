/-
  Moments described by words.

  1. **Words** — a description is made of numbers, names of months, days and zones, units of time,
     and words such as `next`, `ago` and `tomorrow`, in nearly any order.

  2. **Items** — words make up dates, times of day, days of the week, zones, and spans that are
     added.  A number alone is a date, a time or a year, by its length and by what is known already.

  3. **The moment** — what is not said is taken from the present.  A time of day is zero where only
     a date is said.  Spans of years, months and days change the date before the time is counted,
     all others are added afterwards.  Dates that are none, such as the thirtieth of February, are
     refused.
-/
import WasmBinary.Machine.Calendar.Basic

namespace WasmBinary.Machine.Calendar

/-! ## Words -/

/-- Units of time, as far as they are counted differently. -/
inductive TimeUnit
  | year
  | month
  | day
  | hour
  | minute
  | second
deriving DecidableEq, Repr

/-- The smallest parts of a description. -/
inductive DateWord
  /-- A number, how many digits it has, and its sign if it has one. -/
  | number (value : Int) (digits : Nat) (signed : Bool)
  /-- A number of seconds with nanoseconds behind a point. -/
  | decimal (value : Int) (nanoseconds : Int) (signed : Bool)
  | month (n : Int)
  | day (n : Int)
  | meridian (afternoon : Bool)
  | zone (offset : Int)
  | unit (unit : TimeUnit) (factor : Int)
  | ordinal (n : Int)
  | shift (days : Int)
  | ago (factor : Int)
  | separator
  | sign (c : Char)
deriving DecidableEq, Repr

/-- The place of a name in a list, by its whole text or its first three letters. -/
def indexOfName (names : List String) (word : String) : Option Nat :=
  let bare :=
    if word.length = 4 && word.endsWith "." then String.ofList (word.toList.take 3) else word
  names.findIdx? fun name =>
    let upper := name.map Char.toUpper
    upper = word || (bare.length = 3 && upper.startsWith bare)

/-- The zones that have names, with the hours that they are ahead, doubled. -/
def zoneTable : List (String × Int) :=
  [ ("GMT", 0), ("UT", 0), ("UTC", 0), ("WET", 0), ("WEST", 2), ("BST", 2), ("ART", -6),
    ("BRT", -6), ("BRST", -4), ("NST", -7), ("NDT", -5), ("AST", -8), ("ADT", -6), ("CLT", -8),
    ("CLST", -6), ("EST", -10), ("EDT", -8), ("CST", -12), ("CDT", -10), ("MST", -14), ("MDT", -12),
    ("PST", -16), ("PDT", -14), ("AKST", -18), ("AKDT", -16), ("HST", -20), ("HAST", -20),
    ("HADT", -18), ("SST", -24), ("WAT", 2), ("CET", 2), ("CEST", 4), ("MET", 2), ("MEZ", 2),
    ("MEST", 4), ("MESZ", 4), ("EET", 4), ("EEST", 6), ("CAT", 4), ("SAST", 4), ("EAT", 6),
    ("MSK", 6), ("MSD", 8), ("IST", 11), ("SGT", 16), ("KST", 18), ("JST", 18), ("GST", 20),
    ("NZST", 24), ("NZDT", 26) ]

/-- The hours that the zone of a single letter is ahead. -/
def letterZone? (c : Char) : Option Int :=
  if c = 'Z' then some 0
  else if 'A' ≤ c && c ≤ 'I' then some (c.toNat - 64)
  else if 'K' ≤ c && c ≤ 'M' then some (c.toNat - 65)
  else if 'N' ≤ c && c ≤ 'Y' then some (-((c.toNat : Int) - 77))
  else none

/-- The units by their names. -/
def unitTable : List (String × TimeUnit × Int) :=
  [ ("YEAR", .year, 1), ("MONTH", .month, 1), ("FORTNIGHT", .day, 14), ("WEEK", .day, 7),
    ("DAY", .day, 1), ("HOUR", .hour, 1), ("MINUTE", .minute, 1), ("MIN", .minute, 1),
    ("SECOND", .second, 1), ("SEC", .second, 1) ]

/-- The words for numbers, and for days near the present one. -/
def relativeTable : List (String × DateWord) :=
  [ ("TOMORROW", .shift 1), ("YESTERDAY", .shift (-1)), ("TODAY", .shift 0), ("NOW", .shift 0),
    ("LAST", .ordinal (-1)), ("THIS", .ordinal 0), ("NEXT", .ordinal 1), ("FIRST", .ordinal 1),
    ("THIRD", .ordinal 3), ("FOURTH", .ordinal 4), ("FIFTH", .ordinal 5), ("SIXTH", .ordinal 6),
    ("SEVENTH", .ordinal 7), ("EIGHTH", .ordinal 8), ("NINTH", .ordinal 9), ("TENTH", .ordinal 10),
    ("ELEVENTH", .ordinal 11), ("TWELFTH", .ordinal 12), ("AGO", .ago (-1)), ("HENCE", .ago 1) ]

/-- What a name means. -/
def wordOfName? (name : String) : Option DateWord :=
  let word := name.map Char.toUpper
  let days := dayNames ++ ["Tues", "Wednes", "Thur", "Thurs"]
  let months := monthNames ++ ["Sept"]
  let singular := if word.endsWith "S" then String.ofList word.toList.dropLast else word
  if word = "AM" || word = "A.M." then some (.meridian false)
  else if word = "PM" || word = "P.M." then some (.meridian true)
  else
    match indexOfName months word, indexOfName days word with
    | some i, _ => some (.month (if i = 12 then 9 else i + 1))
    | none, some i => some (.day (([0, 1, 2, 3, 4, 5, 6, 2, 3, 4, 4] : List Int).getD i 0))
    | none, none =>
        let found := [ (zoneTable.lookup word).map fun halves => DateWord.zone (halves * 1800),
          (unitTable.lookup word).map fun (u, f) => .unit u f,
          (unitTable.lookup singular).map fun (u, f) => .unit u f, relativeTable.lookup word ]
        match found.findSome? id, word.toList with
        | some w, _ => some w
        | none, ['T'] => some .separator
        | none, [c] => (letterZone? c).map fun hours => .zone (hours * 3600)
        | none, _ =>
            (zoneTable.lookup (word.replace "." "")).map fun halves => .zone (halves * 1800)

/-- What stands behind a comment in parentheses. -/
def behindComment : Nat → List Char → List Char
  | _, [] => []
  | depth, '(' :: rest => behindComment (depth + 1) rest
  | depth, ')' :: rest => if depth ≤ 1 then rest else behindComment (depth - 1) rest
  | depth, _ :: rest => behindComment depth rest

/-- The words of a description, if it has no unknown ones. -/
def dateWords : Nat → List Char → Option (List DateWord)
  | 0, _ => none
  | _, [] => some []
  | n + 1, c :: rest =>
      let blank (c : Char) : Bool := c = ' ' || (9 ≤ c.toNat && c.toNat ≤ 13)
      if blank c then dateWords n rest
      else if c = '(' then dateWords n (behindComment 1 rest)
      else
        let signed := c = '-' || c = '+'
        let digitsFrom := if signed then rest.dropWhile blank else c :: rest
        let digits := digitsFrom.takeWhile Char.isDigit
        let behind := digitsFrom.drop digits.length
        if signed && digits.isEmpty then dateWords n digitsFrom
        else if !digits.isEmpty then do
          let n0 : Int := Nat.ofDigitChars 10 digits 0
          let negative := c = '-'
          match behind with
          | point :: more =>
              let fraction := more.takeWhile Char.isDigit
              if (point = '.' || point = ',') && !fraction.isEmpty then
                let nanos : Int := Nat.ofDigitChars 10 ((fraction.take 9).rightpad 9 '0') 0
                let inexact := (fraction.drop 9).any (· ≠ '0')
                let word := if negative then
                    let nanos := if inexact then nanos + 1 else nanos
                    DateWord.decimal (if nanos = 0 then -n0 else -n0 - 1)
                      (if nanos = 0 then 0 else 1000000000 - nanos) true
                  else .decimal n0 nanos signed
                return word :: (← dateWords n (more.drop fraction.length))
              else
                return .number (if negative then -n0 else n0) digits.length signed ::
                  (← dateWords n behind)
          | [] => return [.number (if negative then -n0 else n0) digits.length signed]
        else if c.isAlpha then do
          let name := (c :: rest).takeWhile fun c => c.isAlpha || c = '.'
          let word ← wordOfName? (String.ofList name)
          return word :: (← dateWords n ((c :: rest).drop name.length))
        else do return .sign c :: (← dateWords n rest)

/-! ## What is known -/

/-- What a description has said so far. -/
structure Reading where
  /-- The year with the number of its digits, once there is one. -/
  year : Option (Int × Nat) := none
  month : Int
  day : Int
  hour : Int := 0
  minute : Int := 0
  second : Int := 0
  nanosecond : Int := 0
  meridian : Option Bool := none
  weekday : Int := 0
  weekdayOrdinal : Int := 0
  zone : Int := 0
  /-- The spans to be added. -/
  years : Int := 0
  months : Int := 0
  days : Int := 0
  seconds : Int := 0
  nanoseconds : Int := 0
  dates : Nat := 0
  times : Nat := 0
  weekdays : Nat := 0
  zones : Nat := 0
  spans : Nat := 0

namespace Reading

/-- A span of units is to be added. -/
def span (r : Reading) (unit : TimeUnit) (n : Int) (nanoseconds : Int := 0) : Reading :=
  let r := { r with spans := r.spans + 1 }
  match unit with
  | .year => { r with years := r.years + n }
  | .month => { r with months := r.months + n }
  | .day => { r with days := r.days + n }
  | .hour => { r with seconds := r.seconds + n * 3600 }
  | .minute => { r with seconds := r.seconds + n * 60 }
  | .second => { r with seconds := r.seconds + n, nanoseconds := r.nanoseconds + nanoseconds }

/-- A span, which may be meant backwards. -/
def spanThen (r : Reading) (unit : TimeUnit) (n nanoseconds : Int) (rest : List DateWord) :
    Reading × List DateWord :=
  match rest with
  | .ago factor :: rest =>
      -- A fraction counts backwards as well.
      (r.span unit (n * factor) (nanoseconds * factor), rest)
  | rest => (r.span unit n nanoseconds, rest)

/-- A time of day. -/
def time (r : Reading) (hour minute second nanosecond : Int) (meridian : Option Bool) : Reading :=
  { r with hour, minute, second, nanosecond, meridian, times := r.times + 1 }

/-- A date with a year. -/
def date (r : Reading) (year : Option (Int × Nat)) (month day : Int) : Reading :=
  { r with year := year.orElse fun _ => r.year, month, day, dates := r.dates + 1 }

/-- An offset from universal time, in hours or in hours and minutes. -/
def offset? (value : Int) (digits : Nat) (minutes : Option Int) : Option Int :=
  let n : Int := match minutes with
    | some m => value * 60 + (if value < 0 then -m else m)
    | none =>
        let value := if digits ≤ 2 then value * 100 else value
        Int.tdiv value 100 * 60 + Int.tmod value 100
  if 24 * 60 < n.natAbs then none else some (n * 60)

/-- An offset from universal time in front, if there is one. -/
def takeOffset (r : Reading) : List DateWord → Option (Reading × List DateWord)
  | .number value digits true :: .sign ':' :: .number m _ false :: rest => do
      let zone ← offset? value digits (some m)
      return ({ r with zone, zones := r.zones + 1 }, rest)
  | .number value digits true :: rest => do
      let zone ← offset? value digits none
      return ({ r with zone, zones := r.zones + 1 }, rest)
  | rest => some (r, rest)

/-- A time of day behind its hour and a colon. -/
def timeFrom (r : Reading) (hour : Int) : List DateWord → Option (Reading × List DateWord)
  | .number m _ false :: .sign ':' :: .number s _ false :: .meridian p :: rest =>
      some (r.time hour m s 0 (some p), rest)
  | .number m _ false :: .sign ':' :: .decimal s ns false :: .meridian p :: rest =>
      some (r.time hour m s ns (some p), rest)
  | .number m _ false :: .sign ':' :: .number s _ false :: rest =>
      (r.time hour m s 0 none).takeOffset rest
  | .number m _ false :: .sign ':' :: .decimal s ns false :: rest =>
      (r.time hour m s ns none).takeOffset rest
  | .number m _ false :: .meridian p :: rest => some (r.time hour m 0 0 (some p), rest)
  | .number m _ false :: rest => (r.time hour m 0 0 none).takeOffset rest
  | _ => none

/-- A number that stands alone. -/
def number (r : Reading) (n : Int) (digits : Nat) : Reading :=
  if 0 < r.dates && r.year.isNone && r.spans = 0 && (0 < r.times || 2 < digits) then
    { r with year := some (n, digits) }
  else if 4 < digits then r.date (some (n / 10000, digits - 4)) (n / 100 % 100) (n % 100)
  else if digits ≤ 2 then r.time n 0 0 0 none
  else r.time (n / 100) (n % 100) 0 0 none

/-- A time of day as standards write it, behind a date. -/
def timeOfDay (r : Reading) : List DateWord → Option (Reading × List DateWord)
  | .number h _ false :: .sign ':' :: rest => r.timeFrom h rest
  | .number h _ false :: rest@(.number _ _ true :: _) => (r.time h 0 0 0 none).takeOffset rest
  | _ => none

/-- Takes an item in front that starts with a number. -/
def numbered (r : Reading) (n : Int) (digits : Nat) :
    List DateWord → Option (Reading × List DateWord)
  | .number m _ true :: .number d _ true :: .separator :: rest =>
      (r.date (some (n, digits)) (-m) (-d)).timeOfDay rest
  | .number m _ true :: .number d _ true :: rest =>
      some (r.date (some (n, digits)) (-m) (-d), rest)
  | .number k _ true :: .unit unit factor :: rest =>
      some ((r.number n digits).spanThen unit (k * factor) 0 rest)
  | rest@(.number _ _ true :: _) => (r.time n 0 0 0 none).takeOffset rest
  | .sign ':' :: rest => r.timeFrom n rest
  | .meridian p :: rest => some (r.time n 0 0 0 (some p), rest)
  | .sign '/' :: .number m _ false :: .sign '/' :: .number k kd false :: rest =>
      some (if 4 ≤ digits then r.date (some (n, digits)) m k else r.date (some (k, kd)) n m, rest)
  | .sign '/' :: .number m _ false :: rest => some (r.date none n m, rest)
  | .month m :: .number y digits true :: rest => some (r.date (some (-y, digits)) m n, rest)
  | .month m :: .number y digits false :: .sign ':' :: rest =>
      some (r.date none m n, .number y digits false :: .sign ':' :: rest)
  | .month m :: .number y digits false :: rest => some (r.date (some (y, digits)) m n, rest)
  | .month m :: rest => some (r.date none m n, rest)
  | .day d :: rest =>
      some ({ r with weekday := d, weekdayOrdinal := n, weekdays := r.weekdays + 1 }, rest)
  | .unit unit factor :: rest => some (r.spanThen unit (n * factor) 0 rest)
  | rest => some (r.number n digits, rest)

/-- Takes an item in front. -/
def item (r : Reading) : List DateWord → Option (Reading × List DateWord)
  | .number n digits false :: rest => r.numbered n digits rest
  | .number n _ true :: .unit unit factor :: rest => some (r.spanThen unit (n * factor) 0 rest)
  | .decimal n ns _ :: .unit .second _ :: rest => some (r.spanThen .second n ns rest)
  | .ordinal n :: .unit unit factor :: rest => some (r.spanThen unit (n * factor) 0 rest)
  | .ordinal n :: .day d :: rest =>
      some ({ r with weekday := d, weekdayOrdinal := n, weekdays := r.weekdays + 1 }, rest)
  | .unit unit factor :: rest => some (r.spanThen unit factor 0 rest)
  | .shift n :: rest => some (r.span .day n, rest)
  | .day d :: .sign ',' :: rest | .day d :: rest =>
      some ({ r with weekday := d, weekdayOrdinal := 0, weekdays := r.weekdays + 1 }, rest)
  | .month m :: .number d _ true :: .number y digits true :: rest =>
      some (r.date (some (-y, digits)) m (-d), rest)
  | .month m :: .number d _ false :: .sign ',' :: .number y digits false :: rest =>
      some (r.date (some (y, digits)) m d, rest)
  | .month m :: .number d _ false :: rest => some (r.date none m d, rest)
  | .zone z :: .number n _ true :: .unit unit factor :: rest =>
      some (({ r with zone := z, zones := r.zones + 1 }).spanThen unit (n * factor) 0 rest)
  | .zone z :: rest@(.number _ _ true :: _) => do
      let (q, rest) ← r.takeOffset rest
      return ({ q with zone := q.zone + z }, rest)
  | .zone z :: rest => some ({ r with zone := z, zones := r.zones + 1 }, rest)
  | .separator :: rest => some ({ r with zone := -25200, zones := r.zones + 1 }, rest)
  | _ => none

/-- Takes all items. -/
def items : Nat → Reading → List DateWord → Option Reading
  | _, r, [] => some r
  | 0, _, _ => none
  | n + 1, r, words => do
      let (r, rest) ← r.item words
      items n r rest

/-- The hour of a day of twenty-four hours. -/
def hour? (hour : Int) : Option Bool → Option Int
  | none => if 0 ≤ hour && hour < 24 then some hour else none
  | some afternoon =>
      if 0 < hour && hour < 12 then some (if afternoon then hour + 12 else hour)
      else if hour = 12 then some (if afternoon then 12 else 0)
      else none

/-- The moment that is described, in nanoseconds, where the present is known as a date. -/
def moment? (r : Reading) (present : Civil) (home : Zone) : Option Int := do
  if 1 < r.times || 1 < r.dates || 1 < r.weekdays || 1 < r.zones then none
  let year := match r.year with
    | none => present.year
    | some (y, 2) => if y < 0 then y else if y < 69 then y + 2000 else y + 1900
    | some (y, _) => y
  let timed := 0 < r.times
  let kept := !timed && 0 < r.spans && r.dates = 0 && r.weekdays = 0
  let hour ← if timed then hour? r.hour r.meridian else some 0
  let c : Civil :=
    { year, month := r.month, day := r.day, hour, minute := r.minute, second := r.second
      nanosecond := r.nanosecond }
  let c := if timed then c
    else if kept then
      { c with
        hour := present.hour, minute := present.minute, second := present.second
        nanosecond := present.nanosecond }
    else { c with hour := 0, minute := 0, second := 0, nanosecond := 0 }
  -- A leap second is the only one that is carried over without a complaint.
  let checked := if c.second = 60 then { c with second := 59 } else c
  if checked.carried ≠ checked then none
  let c := if 0 < r.weekdays && r.dates = 0 then
      let ahead := Int.fmod (r.weekday - c.weekday + 7) 7
      let passed := if 0 < r.weekdayOrdinal && c.weekday ≠ r.weekday then 1 else 0
      { c with day := c.day + ahead + 7 * (r.weekdayOrdinal - passed) }
    else c
  let c := { c with year := c.year + r.years, month := c.month + r.months, day := c.day + r.days }
  let zone := if 0 < r.zones then r.zone else home.offset
  let seconds := c.seconds - zone + r.seconds
  return seconds * 1000000000 + c.nanosecond + r.nanoseconds

end Reading

/-- The moment that a text describes, in nanoseconds since the start of 1970, seen from a present
    moment in a zone. -/
def momentOfText? (text : String) (present : Int) (home : Zone) : Option Int := do
  let seconds := Int.fdiv present 1000000000
  let now := Civil.ofSeconds (seconds + home.offset) (present - seconds * 1000000000)
  let cs := text.toList.dropWhile fun c => c = ' ' || (9 ≤ c.toNat && c.toNat ≤ 13)
  match cs with
  | '@' :: rest =>
      match ← dateWords (rest.length + 2) rest with
      | [.number n _ _] => return n * 1000000000
      | [.decimal n ns _] => return n * 1000000000 + ns
      | _ => none
  | cs =>
      let words ← dateWords (cs.length + 2) cs
      let start : Reading := { month := now.month, day := now.day }
      let r ← Reading.items (words.length + 1) start words
      r.moment? now home

end WasmBinary.Machine.Calendar
