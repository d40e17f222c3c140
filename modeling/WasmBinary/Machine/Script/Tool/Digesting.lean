/-
  Digests and checksums of files.

  1. **Lines** tell the digest of a file and its name, in one of two forms.  A name that would not
     fit into a line is written with escapes, and a backslash in front of the line tells so.

  2. **Checking** — lines are read, and the digests of the files in them are made once more.  All
     that does not agree is told, and summed up at the end.
-/
import WasmBinary.Machine.Script.Tool.Coding
import WasmBinary.Machine.Script.Tool.Digesting.Settings

namespace WasmBinary.Machine.Script.Tool

open Run

namespace Digesting

/-! ## Lines -/

/-- Whether a name does not fit into a line. -/
def needsEscape (name : String) : Bool :=
  name.toList.any fun c => c = '\\' || c = '\n' || c = '\x0d'

/-- A name with escapes. -/
def escaped (name : String) : String :=
  String.join (name.toList.map fun c =>
    if c = '\\' then "\\\\" else if c = '\n' then "\\n" else if c = '\x0d' then "\\r"
    else c.toString)

/-- The name that escapes stand for, if they are right. -/
def unescaped? : List Char → Option (List Char)
  | [] => some []
  | '\\' :: 'n' :: rest => (unescaped? rest).map ('\n' :: ·)
  | '\\' :: 'r' :: rest => (unescaped? rest).map ('\x0d' :: ·)
  | '\\' :: '\\' :: rest => (unescaped? rest).map ('\\' :: ·)
  | '\\' :: _ => none
  | c :: rest => (unescaped? rest).map (c :: ·)

/-- Bytes as hexadecimal digits. -/
def hexOf (bytes : List UInt8) : String :=
  String.ofList (bytes.flatMap fun b =>
    [Nat.digitChar (b.toNat / 16), Nat.digitChar (b.toNat % 16)])

/-- A digest as it stands in a line. -/
def digits (s : Settings) (bytes : List UInt8) : String :=
  if s.inBase64 then Coding.base64Text bytes else hexOf bytes

/-- The line for a file. -/
def lineFor (s : Settings) (named : Bool) (name : String) (data : ByteArray) : String :=
  let bytes := s.algorithm.bytes s.length data
  let behind := if named then " " ++ name else ""
  let ending := if s.zero then "\x00" else "\n"
  let blocks (size : Nat) : Nat := (data.size + size - 1) / size
  if s.raw then ByteText.ofBytes ⟨bytes.toArray⟩
  else
    match s.algorithm with
    | .bsd =>
        let number := toString (Digest.turning data)
        "".pushn '0' (5 - number.length) ++ number ++ " " ++ padded 5 (blocks 1024) ++ behind ++
          ending
    | .sysv => toString (Digest.folded data) ++ " " ++ toString (blocks 512) ++ behind ++ ending
    | .crc => toString (Digest.cyclic data) ++ " " ++ toString data.size ++ behind ++ ending
    | algorithm =>
        let escapes := !s.zero && needsEscape name
        let shown := if escapes then escaped name else name
        let front := if escapes then "\\" else ""
        if s.tags then
          let length := if algorithm = .blake2b && s.length < 512 then "-" ++ toString s.length
            else ""
          front ++ algorithm.tag ++ length ++ " (" ++ shown ++ ") = " ++ digits s bytes ++ ending
        else
          front ++ digits s bytes ++ " " ++ (if s.binary = some true then "*" else " ") ++ shown ++
            ending

/-! ## Reading lines -/

/-- What a line says. -/
structure Claim where
  algorithm : Algorithm
  length : Nat
  digest : String
  name : String

/-- Whether characters are a digest, in hexadecimal digits or in those of base 64. -/
def isDigest (size : Nat) (cs : List Char) : Bool :=
  let hex := cs.length = 2 * size && cs.all Numeral.isHex
  let body := (cs.reverse.dropWhile (· = '=')).reverse
  let base64 := cs.length = (size + 2) / 3 * 4 && cs.length ≤ body.length + 2 &&
    body.all fun c => c.isAlphanum || c = '+' || c = '/'
  hex || base64

/-- A name from a line, with or without escapes in it. -/
def nameOf? (escapes : Bool) (cs : List Char) : Option String :=
  if escapes then (unescaped? cs).map String.ofList else some (String.ofList cs)

/-- Whether a character separates the parts of a line. -/
def isGap (c : Char) : Bool := c = ' ' || c = '\t'

/-- What a line with a name between parentheses says, behind the opening one. -/
def claimBehindTag? (algorithm : Algorithm) (length : Nat) (escapes : Bool) (cs : List Char) :
    Option Claim := do
  let digestFirst := cs.reverse.takeWhile (· ≠ ')')
  if digestFirst.length = cs.length then none
  let name ← nameOf? escapes (cs.take (cs.length - digestFirst.length - 1))
  match digestFirst.reverse.dropWhile isGap with
  | '=' :: rest =>
      let digest := rest.dropWhile isGap
      if isDigest (algorithm.size length) digest then
        some { algorithm, length, digest := String.ofList digest, name }
      else none
  | _ => none

/-- The algorithm that a line starts with, how long its digest is, and what is behind that. -/
def tagOf? (s : Settings) (cs : List Char) : Option (Algorithm × Nat × List Char) :=
  let known := match s.offer with
    | .single algorithm => [algorithm]
    | _ => Algorithm.all
  let word := cs.takeWhile fun c => c.isAlphanum
  (known.find? fun a => a.tag.toList = word).bind fun algorithm =>
    let rest := cs.drop word.length
    match algorithm, rest with
    | .blake2b, '-' :: more =>
        let digits := more.takeWhile Char.isDigit
        let length := digits.foldl (fun n c => 10 * n + (c.toNat - 48)) 0
        if length = 0 || length % 8 ≠ 0 || 512 < length then none
        else some (algorithm, length, more.drop digits.length)
    | _, _ => some (algorithm, 512, rest)

/-- What a line says, and whether only one character separates a digest from a name. -/
def claimOf? (s : Settings) (reversed : Option Bool) (line : List Char) :
    Option (Claim × Option Bool) :=
  let cs := line.dropWhile isGap
  let escapes := cs.head? = some '\\'
  let cs := if escapes then cs.drop 1 else cs
  match tagOf? s cs with
  | some (algorithm, length, rest) =>
      let rest := if rest.head? = some ' ' then rest.drop 1 else rest
      if algorithm.isChecksum || (s.named && algorithm ≠ s.algorithm) then none
      else
        match rest with
        | '(' :: rest => (claimBehindTag? algorithm length escapes rest).map fun c => (c, reversed)
        | _ => none
  | none =>
      if s.offer = .any && !s.named then none
      else
        let digest := cs.takeWhile fun c => !isGap c
        let rest := cs.drop (digest.length + 1)
        let length := if s.algorithm = .blake2b then 4 * digest.length else 512
        if digest.length = cs.length || rest.isEmpty || 512 < length || digest.length < 2 ||
            !isDigest (s.algorithm.size length) digest then none
        else
          let single := rest.length = 1 || !(rest.head? = some ' ' || rest.head? = some '*')
          let claim (cs : List Char) (reversed : Option Bool) : Option (Claim × Option Bool) :=
            (nameOf? escapes cs).map fun name =>
              ({ algorithm := s.algorithm, length, digest := String.ofList digest, name }, reversed)
          if single then
            if reversed = some false then none else claim rest (some true)
          else if reversed = some true then claim rest reversed
          else claim (rest.drop 1) (some false)

/-! ## Checking -/

/-- What has come of the lines so far. -/
structure Tally where
  misformatted : Nat := 0
  formatted : Bool := false
  unread : Nat := 0
  mismatched : Nat := 0
  matched : Bool := false
  reversed : Option Bool := none

/-- The text of a file. -/
def textOf (path : String) : Run (Except FileFault ByteArray) := do
  return (← readOperand path .whole).map ByteText.toBytes

/-- Checks what a line says. -/
def checkLine (self label : String) (s : Settings) (t : Tally) (number : Nat) (line : String) :
    Run Tally := do
  let cs := line.toList
  let cs := if cs.getLast? = some '\x0d' then cs.dropLast else cs
  if cs.isEmpty || cs.head? = some '#' then return t
  let found := (claimOf? s t.reversed cs).filter fun (c, _) =>
    !(label = "standard input" && c.name = "-")
  match found with
  | none =>
      if s.warns then
        say self (shown label ++ ": " ++ toString number ++ ": improperly formatted " ++
          s.algorithm.tag ++ " checksum line")
      return { t with misformatted := t.misformatted + 1 }
  | some (claim, reversed) =>
      let t := { t with formatted := true, reversed }
      let escapes := !s.mute && needsEscape claim.name
      let name := (if escapes then "\\" ++ escaped claim.name else claim.name) ++ ": "
      match ← textOf claim.name with
      | .error fault =>
          if s.ignoresMissing && fault = .notFound then return t
          say self (shown claim.name ++ ": " ++ fault.words)
          if !s.mute then emit (name ++ "FAILED open or read\n")
          return { t with unread := t.unread + 1 }
      | .ok data =>
          let bytes := claim.algorithm.bytes claim.length data
          let same := hexOf bytes = claim.digest.toLower || Coding.base64Text bytes = claim.digest
          if !s.mute && !(same && s.quiet) then
            emit (name ++ (if same then "OK\n" else "FAILED\n"))
          return { t with
            matched := t.matched || same
            mismatched := t.mismatched + (!same).toNat }

/-- Sums up what did not agree, where that is a number of things. -/
def sumUp (self : String) (count : Nat) (one many : String) : Run Unit :=
  if count = 0 then return
  else say self ("WARNING: " ++ toString count ++ " " ++ if count = 1 then one else many)

/-- Checks the lines of a file: whether all of them are right. -/
def checkFile (self : String) (s : Settings) (path : String) : Run Bool := do
  let label := if path = "-" then "standard input" else path
  match ← readOperand path .whole with
  | .error .isADirectory =>
      say self (shown label ++ ": read error")
      return false
  | .error fault =>
      say self (shown label ++ ": " ++ fault.words)
      return false
  | .ok text =>
      let t ← (recordsOf '\n' text).zipIdx.foldlM (fun t (line, i) =>
        checkLine self label s t (i + 1) line) {}
      if !t.formatted then
        say self (shown label ++ ": no properly formatted checksum lines found")
      else if !s.mute then
        sumUp self t.misformatted "line is improperly formatted" "lines are improperly formatted"
        sumUp self t.unread "listed file could not be read" "listed files could not be read"
        sumUp self t.mismatched "computed checksum did NOT match" "computed checksums did NOT match"
        if s.ignoresMissing && !t.matched then say self (shown label ++ ": no file was verified")
      return t.formatted && t.matched && t.mismatched = 0 && t.unread = 0 &&
        !(s.strict && t.misformatted ≠ 0)

/-- Tells the digest of a file: whether it can be read. -/
def tellDigest (self : String) (s : Settings) (named : Bool) (path : String) : Run Bool := do
  match ← textOf path with
  | .error fault =>
      say self (shown path ++ ": " ++ fault.words)
      return false
  | .ok data =>
      if s.explains && s.algorithm = .crc then say self "using pclmul hardware support"
      emit (lineFor s named path data)
      return true

end Digesting

/-- Tells digests, or checks them. -/
def digestsOf (offer : Digesting.Offer) : Tool := fun self arguments =>
  withSettings (Digesting.Settings.choices offer) (Digesting.Settings.initial offer)
    Digesting.Settings.step self arguments fun s operands => do
      match s.checked operands.length with
      | .error m => m.report self 1
      | .ok s =>
          let act := if s.check then Digesting.checkFile self s
            else Digesting.tellDigest self s (!operands.isEmpty)
          forEach (orInput operands) act
          if (orInput operands).contains "-" && (← opening? 0).isNone then
            fail self ("standard input: " ++ badStream.words)

end WasmBinary.Machine.Script.Tool
