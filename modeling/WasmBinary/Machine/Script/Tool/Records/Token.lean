/-
  The tokens of a program that works on records.

  1. **Words** are keywords, functions that are known, functions that are called, and names.

  2. **Slashes** divide behind what has a value, and elsewhere enclose regular expressions.

  3. **Escapes** in texts stand for characters that could not be written otherwise.
-/
import WasmBinary.Machine.Script.Floating

namespace WasmBinary.Machine.Script.Tool.Records

/-- A token. -/
inductive Token
  | number (x : Float) (written : String)
  | text (s : String)
  | pattern (s : String)
  | name (s : String)
  /-- A name with an opening parenthesis right behind it. -/
  | callee (s : String)
  | builtin (s : String)
  | keyword (s : String)
  | mark (s : String)
  | lineEnd
  | fileEnd
  /-- What cannot be a token, with what is told about it. -/
  | broken (numbered : Bool) (text : String)
deriving Inhabited

/-- A token with the number of its line. -/
structure Placed where
  token : Token
  line : Nat
deriving Inhabited

namespace Token

/-- How a message shows a token. -/
def shown : Token → String
  | number _ written => written
  | text s | name s | callee s | builtin s | keyword s | mark s => s
  | pattern s => "/" ++ s ++ "/"
  | lineEnd => "end of line"
  | fileEnd => "end of file"
  | broken _ said => said

/-- Whether a slash behind a token divides. -/
def hasValue : Token → Bool
  | number .. | text _ | name _ | pattern _ => true
  | mark s => [")", "]", "$", "++", "--"].contains s
  | keyword s => s = "getline"
  | _ => false

/-- The words that belong to the notation. -/
def keywords : List String :=
  [ "BEGIN", "END", "function", "if", "else", "while", "do", "for", "break", "continue", "next",
    "nextfile", "exit", "return", "delete", "getline", "print", "printf", "in" ]

/-- The functions that are known. -/
def builtins : List String :=
  [ "length", "substr", "sprintf", "index", "split", "sub", "gsub", "match", "toupper", "tolower",
    "sin", "cos", "atan2", "exp", "log", "int", "sqrt", "rand", "srand", "system", "close",
    "fflush", "strftime", "mktime", "systime" ]

/-- The marks, the longest first. -/
def marks : List String :=
  [ "&&", "||", "++", "--", "+=", "-=", "*=", "/=", "%=", "^=", "==", "<=", ">=", "!=", "!~", ">>",
    "\x7b", "\x7d", "(", ")", "[", "]", ";", ",", "+", "-", "*", "/", "%", "^", "!", ">", "<", "|",
    "?", ":", "~", "$", "=" ]

/-- A number of the kind that programs have. -/
def floatOf : Floating → Float
  | .finite negative m power =>
      let x := (Float.ofNat m).scaleB power
      if negative then -x else x
  | .infinite negative => if negative then -(1.0 / 0.0) else 1.0 / 0.0
  | .nan _ => 0.0 / 0.0

/-- The number in front of characters, with how it is written, and what is behind it. -/
def decimal (cs : List Char) : Float × String × List Char :=
  let (digits, places, rest) := Floating.pointed Char.isDigit cs
  let (power, rest) := Floating.exponentOf 'e' 'E' rest
  let x := (Floating.ofScaled .double false 10 (Nat.ofDigitChars 10 digits 0) (power - places)).1
  (floatOf x, String.ofList (cs.take (cs.length - rest.length)), rest)

/-- The character that a letter behind a backslash stands for. -/
def escape? (c : Char) : Option Char :=
  match c with
  | '"' | '\\' | '/' => some c
  | 'a' => some '\x07'
  | 'b' => some '\x08'
  | 'f' => some '\x0c'
  | 'n' => some '\n'
  | 'r' => some '\x0d'
  | 't' => some '\t'
  | 'v' => some '\x0b'
  | _ => none

/-- Whether a character is an octal digit. -/
def isOctal (c : Char) : Bool := '0' ≤ c && c ≤ '7'

/-- A text with its escapes read. -/
def unescaped : Nat → List Char → List Char
  | 0, cs => cs
  | _, [] => []
  | n + 1, '\\' :: c :: rest =>
      match escape? c with
      | some d => d :: unescaped n rest
      | none =>
          if isOctal c then
            let digits := (c :: rest.take 2).takeWhile isOctal
            let value := digits.foldl (fun n c => 8 * n + (c.toNat - 48)) 0
            Char.ofNat (value % 256) :: unescaped n (rest.drop (digits.length - 1))
          else '\\' :: c :: unescaped n rest
  | n + 1, c :: rest => c :: unescaped n rest

/-- A text with its escapes read. -/
def unescape (text : String) : String :=
  String.ofList (unescaped (text.length + 1) text.toList)

/-- The characters up to a closing quote, and what is behind it; a line end must not be among
    them. -/
def quotedText : Nat → List Char → List Char → Option (List Char × List Char)
  | 0, _, _ => none
  | n + 1, seen, rest =>
      match rest with
      | [] | '\n' :: _ => none
      | '"' :: rest => some (seen.reverse, rest)
      | '\\' :: '\n' :: rest => quotedText n seen rest
      | '\\' :: c :: rest => quotedText n (c :: '\\' :: seen) rest
      | c :: rest => quotedText n (c :: seen) rest

/-- The characters up to a closing slash, and what is behind it.  A slash in a set does not
    close. -/
def patternText : Nat → (inSet : Nat) → List Char → List Char → Option (List Char × List Char)
  | 0, _, _, _ => none
  | n + 1, inSet, seen, rest =>
      match rest with
      | [] | '\n' :: _ => none
      | '\\' :: '/' :: rest => patternText n (min inSet 3) ('/' :: seen) rest
      | '\\' :: '\n' :: rest => patternText n inSet seen rest
      | '\\' :: c :: rest => patternText n (if inSet = 0 then 0 else 3) (c :: '\\' :: seen) rest
      | '/' :: rest =>
          if inSet = 0 then some (seen.reverse, rest) else patternText n 3 ('/' :: seen) rest
      | '[' :: rest => patternText n (if inSet = 0 then 1 else 3) ('[' :: seen) rest
      | '^' :: rest => patternText n (if inSet = 1 then 2 else if inSet = 0 then 0 else 3)
          ('^' :: seen) rest
      | ']' :: rest => patternText n (if inSet = 3 then 0 else if inSet = 0 then 0 else 3)
          (']' :: seen) rest
      | c :: rest => patternText n (if inSet = 0 then 0 else 3) (c :: seen) rest

/-- Whether a character can be in a name. -/
def isNamePart (c : Char) : Bool := c.isAlphanum || c = '_'

/-- The token that a word is. -/
def ofWord (word : String) (rest : List Char) : Token :=
  if keywords.contains word then keyword word
  else if builtins.contains word then builtin word
  else if rest.head? = some '(' then callee word
  else name word

end Token

/-- Whether a character only separates tokens. -/
def isBlank (c : Char) : Bool := [' ', '\t', '\x0d', '\x0c', '\x0b'].contains c

/-- What is told about a text that is not closed. -/
def runaway (what : String) (quote : Char) (rest : List Char) : Token :=
  let shown := (rest.takeWhile (· ≠ '\n')).take 10
  .broken true ("runaway " ++ what ++ " " ++ String.ofList (quote :: shown) ++ " ...")

/-- The tokens of a text, from a line on, behind a token that was seen on a line.  Line ends do not
    count as seen. -/
def tokensFrom : Nat → (line seen : Nat) → (before : Token) → List Char → List Placed
  | 0, line, _, _, _ => [⟨.fileEnd, line⟩]
  | n + 1, line, seen, before, cs =>
      let onward (token : Token) (rest : List Char) : List Placed :=
        ⟨token, line⟩ :: tokensFrom n line line token rest
      let unexpected (seen : Nat) (c : Char) (rest : List Char) : List Placed :=
        let text := toString seen ++ ": unexpected character '" ++ c.toString ++ "'"
        onward (.broken false text) rest
      match cs with
      | [] => [⟨.fileEnd, line⟩]
      | '\n' :: rest => ⟨.lineEnd, line⟩ :: tokensFrom n (line + 1) seen .lineEnd rest
      | '\\' :: rest =>
          match rest.dropWhile isBlank with
          | '\n' :: rest => tokensFrom n (line + 1) (line + 1) before rest
          | rest => unexpected seen '\\' rest
      | '#' :: rest => tokensFrom n line seen before (rest.dropWhile (· ≠ '\n'))
      | '"' :: rest =>
          match Token.quotedText (rest.length + 1) [] rest with
          | some (body, behind) =>
              let text := String.ofList (Token.unescaped (body.length + 1) body)
              let lines := (rest.take (rest.length - behind.length)).count '\n'
              ⟨.text text, line⟩ :: tokensFrom n (line + lines) (line + lines) (.text text) behind
          | none => [⟨runaway "string constant" '"' rest, line⟩]
      | c :: rest =>
          if isBlank c then tokensFrom n line seen before rest
          else if c = '/' && !before.hasValue then
            match Token.patternText (rest.length + 1) 0 [] rest with
            | some (body, behind) => onward (.pattern (String.ofList body)) behind
            | none => [⟨runaway "regular expression" '/' rest, line⟩]
          else if c.isDigit || (c = '.' && rest.head?.any Char.isDigit) then
            let (x, written, behind) := Token.decimal cs
            onward (.number x written) behind
          else if c.isAlpha || c = '_' then
            let word := cs.takeWhile Token.isNamePart
            let behind := cs.drop word.length
            onward (Token.ofWord (String.ofList word) behind) behind
          else
            match Token.marks.find? fun m => m.toList.isPrefixOf cs with
            | some m => onward (.mark m) (cs.drop m.length)
            | none => unexpected line c rest

/-- The tokens of a text. -/
def tokensOf (text : String) : List Placed :=
  tokensFrom (text.length + 2) 1 0 .lineEnd ((text.toList) ++ ['\n'])

end WasmBinary.Machine.Script.Tool.Records
