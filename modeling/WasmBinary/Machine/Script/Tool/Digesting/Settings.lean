/-
  How digests are made and shown.

  1. **Algorithms** have a name for options, and one that stands in lines.

  2. **Settings** are what options ask for.  Some of them make sense only where digests are made, or
     only where they are checked.
-/
import WasmBinary.Machine.Digest.Message
import WasmBinary.Machine.Script.Tool.Basic

namespace WasmBinary.Machine.Script.Tool.Digesting

/-- A digest or a checksum. -/
inductive Algorithm
  | bsd
  | sysv
  | crc
  | md5
  | sha1
  | sha224
  | sha256
  | sha384
  | sha512
  | blake2b
  | sm3
deriving DecidableEq, Repr

namespace Algorithm

/-- All of them. -/
def all : List Algorithm :=
  [bsd, sysv, crc, md5, sha1, sha224, sha256, sha384, sha512, blake2b, sm3]

/-- The name that options use. -/
def word : Algorithm → String
  | bsd => "bsd"
  | sysv => "sysv"
  | crc => "crc"
  | md5 => "md5"
  | sha1 => "sha1"
  | sha224 => "sha224"
  | sha256 => "sha256"
  | sha384 => "sha384"
  | sha512 => "sha512"
  | blake2b => "blake2b"
  | sm3 => "sm3"

/-- The name that stands in lines. -/
def tag : Algorithm → String
  | blake2b => "BLAKE2b"
  | a => a.word.toUpper

/-- Whether it gives a number and not a row of bytes. -/
def isChecksum : Algorithm → Bool
  | bsd | sysv | crc => true
  | _ => false

/-- How many bytes a digest has; it can be shorter only for one of them. -/
def size (length : Nat) : Algorithm → Nat
  | bsd | sysv => 2
  | crc => 4
  | md5 => 16
  | sha1 => 20
  | sha224 => 28
  | sha256 | sm3 => 32
  | sha384 => 48
  | sha512 => 64
  | blake2b => length / 8

/-- The bytes of a digest. -/
def bytes (length : Nat) (data : ByteArray) : Algorithm → List UInt8
  | bsd => Digest.highBytes 2 (Digest.turning data)
  | sysv => Digest.highBytes 2 (Digest.folded data)
  | crc => Digest.highBytes 4 (Digest.cyclic data)
  | md5 => Digest.md5 data
  | sha1 => Digest.sha1 data
  | sha224 => Digest.sha224 data
  | sha256 => Digest.sha256 data
  | sha384 => Digest.sha384 data
  | sha512 => Digest.sha512 data
  | blake2b => Digest.blake2b (length / 8) data
  | sm3 => Digest.sm3 data

end Algorithm

/-- What a tool offers. -/
inductive Offer
  /-- One of two small checksums. -/
  | sums
  /-- A single digest. -/
  | single (algorithm : Algorithm)
  /-- All of them. -/
  | any
deriving DecidableEq, Repr

/-- What options ask for. -/
structure Settings where
  offer : Offer
  algorithm : Algorithm
  /-- Whether the algorithm was asked for. -/
  named : Bool := false
  length : Nat := 0
  lengthText : String := ""
  inBase64 : Bool := false
  raw : Bool := false
  tagged : Option Bool := none
  binary : Option Bool := none
  check : Bool := false
  ignoresMissing : Bool := false
  /-- Only the status tells. -/
  mute : Bool := false
  warns : Bool := false
  quiet : Bool := false
  strict : Bool := false
  zero : Bool := false
  explains : Bool := false

namespace Settings

/-- What is asked for if there are no options. -/
def initial : Offer → Settings
  | .sums => { offer := .sums, algorithm := .bsd }
  | .single algorithm => { offer := .single algorithm, algorithm }
  | .any => { offer := .any, algorithm := .crc }

/-- The options that a tool has. -/
def choices (offer : Offer) : String :=
  let checks := "c,check --ignore-missing --quiet --status w,warn --strict --tag z,zero "
  let kinds := "b,binary t,text"
  match offer with
  | .sums => "r s,sysv"
  | .single .blake2b => "l,length= " ++ checks ++ kinds
  | .single _ => checks ++ kinds
  | .any => "l,length= " ++ checks ++ "a,algorithm= --base64 --debug --raw --untagged " ++ kinds

/-- What is wrong with a length. -/
def lengthFault (text fault : String) : Misuse :=
  { lines := ["invalid length: " ++ cited text, fault], everyLine := true, hint := false }

/-- What an option adds. -/
def step (s : Settings) (option : Given) : Except Misuse Settings := do
  match option.key with
  | "a" =>
      let word ← choiceOf (Algorithm.all.map Algorithm.word) option.value "--algorithm"
      let algorithm := (Algorithm.all.find? fun a => a.word = word).getD .crc
      return { s with algorithm, named := true }
  | "l" =>
      let length ← amountOr "invalid length" "" option.value
      if length % 8 ≠ 0 then throw (lengthFault option.value "length is not a multiple of 8")
      return { s with length, lengthText := option.value }
  | "b" => return { s with binary := some true }
  | "t" => return { s with binary := some false }
  | "c" => return { s with check := true }
  | "z" => return { s with zero := true }
  | "r" => return { s with algorithm := .bsd }
  | "s" => return { s with algorithm := .sysv }
  | "w" => return { s with mute := false, warns := true, quiet := false }
  | "status" => return { s with mute := true, warns := false, quiet := false }
  | "quiet" => return { s with mute := false, warns := false, quiet := true }
  | "ignore-missing" => return { s with ignoresMissing := true }
  | "strict" => return { s with strict := true }
  | "tag" => return { s with tagged := some true, binary := some true }
  | "untagged" =>
      let binary := if s.tagged = some true then none else s.binary
      return { s with tagged := some false, binary }
  | "base64" => return { s with inBase64 := true }
  | "raw" => return { s with raw := true }
  | "debug" => return { s with explains := true }
  | _ => return s

/-- Whether lines tell the algorithm. -/
def tags (s : Settings) : Bool := s.tagged.getD (s.offer = .any)

/-- The settings if they go together, with all that was left open. -/
def checked (s : Settings) (operands : Nat) : Except Misuse Settings := do
  let onlyChecking (given : Bool) (name : String) : Except Misuse Unit :=
    if given && !s.check then
      throw (.hinted ("the --" ++ name ++ " option is meaningful only when verifying checksums"))
    else pure ()
  if s.length ≠ 0 && s.algorithm ≠ .blake2b then
    throw (.plain "--length is only supported with --algorithm=blake2b")
  if 512 < s.length then
    throw (lengthFault s.lengthText "maximum digest length for 'BLAKE2b' is 512 bits")
  if s.check && s.named && s.algorithm.isChecksum then
    throw (.plain "--check is not supported with --algorithm=\x7bbsd,sysv,crc\x7d")
  if s.inBase64 && s.raw then throw (.hinted "--base64 and --raw are mutually exclusive")
  if s.tags && s.binary = some false then
    throw (.hinted (if s.offer = .any then "--text mode is only supported with --untagged"
      else "--tag does not support --text mode"))
  if s.zero && s.check then
    throw (.hinted "the --zero option is not supported when verifying checksums")
  if s.offer ≠ .any && s.tags && s.check then
    throw (.hinted "the --tag option is meaningless when verifying checksums")
  if s.binary.isSome && s.check then
    throw (.hinted
      "the --binary and --text options are meaningless when verifying checksums")
  onlyChecking s.ignoresMissing "ignore-missing"
  onlyChecking s.mute "status"
  onlyChecking s.warns "warn"
  onlyChecking s.quiet "quiet"
  onlyChecking s.strict "strict"
  if 1 < operands && s.raw then
    throw (.plain "the --raw option is not supported with multiple files")
  return { s with length := if s.length = 0 then 512 else s.length }

end Settings

end WasmBinary.Machine.Script.Tool.Digesting
