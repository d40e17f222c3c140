/-
  Changing how characters are encoded.

  1. **Encodings** have several names.  Bytes are taken apart into characters by the one that they
     are in, and put together by another one.

  2. **Faults** — bytes that are no character, and characters that an encoding does not have, end
     the work; it is told where they are.  They can be left out as well.
-/
import WasmBinary.Machine.Script.Tool.Basic

namespace WasmBinary.Machine.Script.Tool

open Run

namespace Encodings

/-! ## Encodings -/

/-- The order of the bytes of a unit. -/
inductive Order
  | little
  | big
  /-- A mark in front tells which. -/
  | marked
deriving DecidableEq, Repr

/-- A way to encode characters. -/
inductive Encoding
  | ascii
  | latin1
  | utf8
  | utf16 (order : Order)
  | utf32 (order : Order)
deriving DecidableEq, Repr

/-- The encoding of a name, without regard to what stands behind two slashes. -/
def Encoding.ofName? (name : String) : Option Encoding :=
  let upper := String.ofList (((name.splitOn "//").headD "").toList.map Char.toUpper)
  let bare := String.ofList (upper.toList.filter fun c => c ≠ '-' && c ≠ '_' && c ≠ '/')
  match bare with
  | "" | "ASCII" | "USASCII" | "ANSIX3.41968" | "ISO646US" | "646" | "C" | "US" => some .ascii
  | "LATIN1" | "ISO88591" | "L1" | "CP819" | "88591" | "IBM819" => some .latin1
  | "UTF8" => some .utf8
  | "UTF16" => some (.utf16 .marked)
  | "UTF16LE" | "UCS2LE" | "UCS2" => some (.utf16 .little)
  | "UTF16BE" | "UCS2BE" => some (.utf16 .big)
  | "UTF32" => some (.utf32 .marked)
  | "UTF32LE" | "UCS4LE" => some (.utf32 .little)
  | "UTF32BE" | "UCS4BE" | "UCS4" => some (.utf32 .big)
  | _ => none

/-! ## Taking apart -/

/-- What stands in front of bytes. -/
inductive Front
  /-- A character, by its number, and of how many bytes it is made. -/
  | code (n length : Nat)
  | invalid
  /-- The bytes end within a character. -/
  | cut

/-- The character in front of bytes in the encoding of one to four bytes. -/
def utf8Front (b : Nat) (rest : List Nat) : Front :=
  let count := if b < 0x80 then 0 else if b < 0xc2 then 9 else if b < 0xe0 then 1
    else if b < 0xf0 then 2 else if b < 0xf5 then 3 else 9
  if count = 0 then .code b 1
  else if count = 9 then .invalid
  else
    let more := rest.take count
    let good := more.takeWhile fun c => 0x80 ≤ c && c < 0xc0
    let first := match more.head? with
      | some c => !((b = 0xe0 && c < 0xa0) || (b = 0xed && 0xa0 ≤ c) || (b = 0xf0 && c < 0x90) ||
          (b = 0xf4 && 0x90 ≤ c))
      | none => true
    if !first || good.length < more.length then .invalid
    else if more.length < count then .cut
    else
      let lead := b % Nat.pow 2 (6 - count)
      .code (more.foldl (fun n c => n * 64 + c % 64) lead) (count + 1)

/-- The unit in front of bytes. -/
def unit? (size : Nat) (big : Bool) (bytes : List Nat) : Option Nat :=
  let front := bytes.take size
  if front.length < size then none
  else some ((if big then front else front.reverse).foldl (fun n b => n * 256 + b) 0)

/-- The character in front of bytes. -/
def front (e : Encoding) (big : Bool) : List Nat → Front
  | [] => .cut
  | b :: rest =>
      match e with
      | .ascii => if b < 0x80 then .code b 1 else .invalid
      | .latin1 => .code b 1
      | .utf8 => utf8Front b rest
      | .utf16 _ =>
          match unit? 2 big (b :: rest) with
          | none => .cut
          | some n =>
              if n < 0xd800 || 0xe000 ≤ n then .code n 2
              else if 0xdc00 ≤ n then .invalid
              else
                match unit? 2 big (rest.drop 1) with
                | none => .cut
                | some m =>
                    if 0xdc00 ≤ m && m < 0xe000 then
                      .code (0x10000 + (n - 0xd800) * 1024 + (m - 0xdc00)) 4
                    else .invalid
      | .utf32 _ =>
          match unit? 4 big (b :: rest) with
          | none => .cut
          | some n =>
              if n < 0x110000 && !(0xd800 ≤ n && n < 0xe000) then .code n 4 else .invalid

/-! ## Putting together -/

/-- The bytes of a unit. -/
def unitBytes (size : Nat) (big : Bool) (n : Nat) : List Nat :=
  let little := (List.range size).map fun i => n / Nat.pow 256 i % 256
  if big then little.reverse else little

/-- The bytes of a character, if the encoding has it. -/
def bytesOf? (e : Encoding) (n : Nat) : Option (List Nat) :=
  match e with
  | .ascii => if n < 0x80 then some [n] else none
  | .latin1 => if n < 0x100 then some [n] else none
  | .utf8 =>
      some (if n < 0x80 then [n]
        else if n < 0x800 then [0xc0 + n / 64, 0x80 + n % 64]
        else if n < 0x10000 then [0xe0 + n / 4096, 0x80 + n / 64 % 64, 0x80 + n % 64]
        else [0xf0 + n / 262144, 0x80 + n / 4096 % 64, 0x80 + n / 64 % 64, 0x80 + n % 64])
  | .utf16 order =>
      let big := order = .big
      if n < 0x10000 then some (unitBytes 2 big n)
      else
        let m := n - 0x10000
        some (unitBytes 2 big (0xd800 + m / 1024) ++ unitBytes 2 big (0xdc00 + m % 1024))
  | .utf32 order => some (unitBytes 4 (order = .big) n)

/-- The mark in front of a text. -/
def mark (e : Encoding) : List Nat :=
  match e with
  | .utf16 .marked => [0xff, 0xfe]
  | .utf32 .marked => [0xff, 0xfe, 0, 0]
  | _ => []

/-! ## Changing -/

/-- What is done with characters that an encoding does not have. -/
inductive Manner
  | stop
  | omit
  /-- They are left out, and that is told at the end. -/
  | ignore
  | replace
deriving DecidableEq, Repr

/-- How the work stands. -/
structure Progress where
  /-- The bytes that came of it, the last one first. -/
  bytes : List Nat := []
  position : Nat := 0
  /-- Whether something was left out. -/
  omitted : Bool := false
  /-- What is wrong, in words. -/
  fault : Option String := none

/-- What is told about a place. -/
def illegalAt (position : Nat) : String :=
  "illegal input sequence at position " ++ toString position

/-- Changes bytes from one encoding to another.  The number bounds how many characters there are. -/
def change (source target : Encoding) (big : Bool) (manner : Manner) :
    Nat → Progress → List Nat → Progress
  | 0, p, _ | _, p, [] => p
  | n + 1, p, bytes =>
      let lenient := manner = .omit || manner = .ignore
      match front source big bytes with
      | .cut =>
          { p with fault := some "incomplete character or shift sequence at end of buffer" }
      | .invalid =>
          if lenient then
            change source target big manner n
              { p with omitted := true, position := p.position + 1 } (bytes.drop 1)
          else { p with fault := some (illegalAt p.position) }
      | .code c length =>
          let onward (made : List Nat) (omitted : Bool) : Progress :=
            change source target big manner n
              { p with
                bytes := made.reverse ++ p.bytes
                omitted := p.omitted || omitted
                position := p.position + length }
              (bytes.drop length)
          match bytesOf? target c, manner with
          | some made, _ => onward made false
          | none, .replace => onward ((bytesOf? target 63).getD []) false
          | none, .stop => { p with fault := some (illegalAt p.position) }
          | none, _ => onward [] true

/-- Whether the first unit of bytes is in the other order, and how long the mark is. -/
def orderOf (e : Encoding) (bytes : List Nat) : Bool × Nat :=
  match e, bytes with
  | .utf16 .big, _ | .utf32 .big, _ => (true, 0)
  | .utf16 .marked, 0xfe :: 0xff :: _ => (true, 2)
  | .utf16 .marked, 0xff :: 0xfe :: _ => (false, 2)
  | .utf32 .marked, 0 :: 0 :: 0xfe :: 0xff :: _ => (true, 4)
  | .utf32 .marked, 0xff :: 0xfe :: 0 :: 0 :: _ => (false, 4)
  | _, _ => (false, 0)

/-- How texts are changed, and where they go. -/
structure Task where
  source : Encoding
  target : Encoding
  manner : Manner
  verbose : Bool
  path : Option String

/-- Writes bytes to where they go, which is opened with the first of them. -/
def Task.put (t : Task) (self : String) (outlet : Option Nat) (bytes : List Nat) :
    Run (Option Nat) := do
  let data : ByteArray := ⟨(bytes.map UInt8.ofNat).toArray⟩
  match t.path, outlet with
  | _, some number => do
      let _ ← writeOpened number data
      return outlet
  | none, none => do
      emit (ByteText.ofBytes data)
      return none
  | some path, none =>
      if bytes.isEmpty then return none
      else
        match ← openPath path .replace with
        | .ok number => do
            let _ ← writeOpened number data
            return some number
        | .error fault => do
            fail self ("cannot open output file: " ++ fault.words)
            throw .failed

/-- Changes texts one after the other: whether all of that could be done. -/
def Task.each (t : Task) (self : String) : Option Nat → List String → Run Bool
  | _, [] => return true
  | outlet, path :: rest => do
      let unread (text : String) : Run Bool := do
        say self text
        let _ ← t.each self outlet rest
        return false
      match ← openOperand path with
      | .error fault => unread ("cannot open input file \x60" ++ path ++ "': " ++ fault.words)
      | .ok number =>
          match ← readOpened number .whole with
          | .error fault => unread ("error while reading the input: " ++ fault.words)
          | .ok data => do
              if t.verbose then tell (path ++ ":\n")
              let bytes := data.toList.map UInt8.toNat
              let (big, length) := orderOf t.source bytes
              let p := change t.source t.target big t.manner (bytes.length + 1)
                { position := length } (bytes.drop length)
              let outlet ← t.put self outlet p.bytes.reverse
              if let some text := p.fault then
                fail self text
                throw .failed
              if p.omitted && t.manner = .ignore then say self (illegalAt p.position)
              let fine ← t.each self outlet rest
              return fine && !(p.omitted && t.manner = .ignore)

end Encodings

/-- What comes behind a mistake in the use of tools that know their use in two ways. -/
def hintOfTwo (self : String) : Run Unit :=
  tell ("Try \x60" ++ self ++ " --help' or \x60" ++ self ++ " --usage' for more information.\n")

/-- Changes the encoding of texts. -/
def recode : Tool := fun self arguments => do
  let u :=
    usageFor "f,from-code= t,to-code= l,list c o,output= s,silent --verbose --help --usage"
      arguments
  if let some text := u.mistake then
    say self text
    hintOfTwo self
    return ← finish 64
  let sourceName := (u.value? 'f').getD ""
  let targetName := (u.value? 't').getD ""
  match Encodings.Encoding.ofName? sourceName, Encodings.Encoding.ofName? targetName with
  | none, some _ => refuse self ("conversion from \x60" ++ sourceName ++ "' is not supported")
  | some _, none => refuse self ("conversion to \x60" ++ targetName ++ "' is not supported")
  | none, none =>
      refuse self ("conversions from \x60" ++ sourceName ++ "' and to \x60" ++ targetName ++
        "' are not supported")
  | some source, some target =>
      let marks := ((targetName.splitOn "//").drop 1).map fun mark =>
        String.ofList (mark.toList.map Char.toUpper)
      let manner : Encodings.Manner := if u.has 'c' then .omit
        else if marks.contains "IGNORE" then .ignore
        else if marks.contains "TRANSLIT" then .replace else .stop
      let task : Encodings.Task :=
        { source, target, manner, verbose := u.hasName "verbose", path := u.value? 'o' }
      let outlet ← task.put self none (Encodings.mark target)
      finishWith (← task.each self outlet (orInput u.operands))
where
  /-- Says that an encoding is not known. -/
  refuse (self text : String) : Run Unit := do
    say self text
    hintOfTwo self
    finish 1

end WasmBinary.Machine.Script.Tool
