/-
  The calendar: moments as dates and times of day.

  1. **Days** are counted from the first day of the year 1970.  Years start in March for counting,
     so that the day that some years have more comes last; 400 years have 146097 days.

  2. **Dates** have a year, a month and a day, and a time of day with nanoseconds.  Fields that are
     out of their range are carried over into the larger ones.

  3. **Weeks** — a week starts on Monday or on Sunday.  The week of a year that has its first
     Thursday is its first one.

  4. **Zones** — a zone has a name and an offset from universal time.
-/

namespace WasmBinary.Machine.Calendar

/-- A date and a time of day. -/
structure Civil where
  year : Int
  /-- From one to twelve. -/
  month : Int
  day : Int
  hour : Int := 0
  minute : Int := 0
  second : Int := 0
  nanosecond : Int := 0
deriving DecidableEq, Repr, Inhabited

/-- A zone: its name, and how many seconds its clocks are ahead of universal time. -/
structure Zone where
  name : String
  offset : Int
deriving DecidableEq, Repr

/-- Universal time. -/
def Zone.universal : Zone := ⟨"UTC", 0⟩

/-- The number of the day of a date. -/
def dayNumber (year month day : Int) : Int :=
  let month := month - 1
  let year := year + Int.fdiv month 12
  let month := Int.fmod month 12 + 1
  let year := if month ≤ 2 then year - 1 else year
  let era := Int.fdiv year 400
  let yearOfEra := year - era * 400
  let shifted := Int.fmod (month + 9) 12
  let dayOfYear := (153 * shifted + 2) / 5
  let dayOfEra := yearOfEra * 365 + yearOfEra / 4 - yearOfEra / 100 + dayOfYear
  era * 146097 + dayOfEra - 719468 + (day - 1)

/-- The year, month and day of the number of a day. -/
def dateOfDay (n : Int) : Int × Int × Int :=
  let z := n + 719468
  let era := Int.fdiv z 146097
  let dayOfEra := z - era * 146097
  let yearOfEra := (dayOfEra - dayOfEra / 1460 + dayOfEra / 36524 - dayOfEra / 146096) / 365
  let dayOfYear := dayOfEra - (365 * yearOfEra + yearOfEra / 4 - yearOfEra / 100)
  let shifted := (5 * dayOfYear + 2) / 153
  let day := dayOfYear - (153 * shifted + 2) / 5 + 1
  let month := if shifted < 10 then shifted + 3 else shifted - 9
  let year := yearOfEra + era * 400
  (if month ≤ 2 then year + 1 else year, month, day)

namespace Civil

/-- The seconds from the start of 1970 to a date, where both are of the same zone. -/
def seconds (c : Civil) : Int :=
  dayNumber c.year c.month c.day * 86400 + c.hour * 3600 + c.minute * 60 + c.second

/-- The date of so many seconds and nanoseconds after the start of 1970. -/
def ofSeconds (seconds : Int) (nanosecond : Int := 0) : Civil :=
  let day := Int.fdiv seconds 86400
  let rest := seconds - day * 86400
  let (year, month, dayOfMonth) := dateOfDay day
  { year, month, day := dayOfMonth, hour := rest / 3600, minute := rest / 60 % 60,
    second := rest % 60, nanosecond }

/-- The same moment with all fields in their ranges. -/
def carried (c : Civil) : Civil := ofSeconds c.seconds c.nanosecond

/-- The day of the week, from Sunday on. -/
def weekday (c : Civil) : Int := Int.fmod (dayNumber c.year c.month c.day + 4) 7

/-- The day of the year, from zero on. -/
def dayOfYear (c : Civil) : Int := dayNumber c.year c.month c.day - dayNumber c.year 1 1

/-- The week of the year, where weeks start on a day of the week and the days in front of the first
    one are in week zero. -/
def weekFrom (c : Civil) (start : Int) : Int :=
  Int.fdiv (c.dayOfYear + 7 - Int.fmod (c.weekday - start) 7) 7

/-- The week of a date, and the year that this week belongs to. -/
def isoWeek (c : Civil) : Int × Int :=
  let day := dayNumber c.year c.month c.day
  let thursday := day - Int.fmod (c.weekday + 6) 7 + 3
  let year := (dateOfDay thursday).1
  (year, Int.fdiv (thursday - dayNumber year 1 1) 7 + 1)

end Civil

/-- The names of the months. -/
def monthNames : List String :=
  ["January", "February", "March", "April", "May", "June", "July", "August", "September",
    "October", "November", "December"]

/-- The names of the days of the week. -/
def dayNames : List String :=
  ["Sunday", "Monday", "Tuesday", "Wednesday", "Thursday", "Friday", "Saturday"]

/-- The first letters of a name. -/
def shortName (name : String) : String := String.ofList (name.toList.take 3)

/-- The zone that a text describes: a name, and how many hours its clocks are behind universal
    time, perhaps with minutes and seconds.  What follows is about summers, and is not looked at. -/
def Zone.ofText? (text : String) : Option Zone := do
  let cs := text.toList
  let (name, rest) := match cs with
    | '<' :: rest =>
        let name := rest.takeWhile (· ≠ '>')
        (name, rest.drop (name.length + 1))
    | cs =>
        let name := cs.takeWhile Char.isAlpha
        (name, cs.drop name.length)
  if name.length < 3 then none
  else
    let (negative, rest) := match rest with
      | '-' :: rest => (true, rest)
      | '+' :: rest => (false, rest)
      | rest => (false, rest)
    let parts := (String.ofList (rest.takeWhile fun c => c.isDigit || c = ':')).splitOn ":"
    let numbers ← (parts.take 3).mapM fun part => part.toNat?
    let seconds : Nat := numbers.getD 0 0 * 3600 + numbers.getD 1 0 * 60 + numbers.getD 2 0
    return ⟨String.ofList name, if negative then seconds else -(seconds : Int)⟩

/-- The zone of a machine where a variable may describe one. -/
def Zone.ofVariable (value : Option String) : Zone :=
  match value with
  | none | some "" => .universal
  | some text =>
      let bare := if text.startsWith ":" then String.ofList (text.toList.drop 1) else text
      match Zone.ofText? bare with
      | some zone => zone
      | none =>
          let letters := bare.toList.takeWhile Char.isAlpha
          ⟨if letters.isEmpty || letters.length < 3 then "UTC" else String.ofList letters, 0⟩

end WasmBinary.Machine.Calendar
