/-
  Reading scripts: the source, and the tokens of its grammar.

  A reader takes what it can use from the front of the source and leaves the rest.  The source
  counts lines, holds the token that was read last, so that it can be put back, and collects the
  here documents, whose text follows on the lines after the one that asks for them.
-/
import WasmBinary.Machine.Script.Basic

namespace WasmBinary.Machine.Script

/-- The smallest units of the grammar. -/
inductive Token
  | ending
  | newline
  /-- An operator such as `;` or `&&`. -/
  | operator (text : String)
  /-- A word, and whether any of it was quoted. -/
  | word (word : Word) (quoted : Bool)
  /-- The operator of a redirection, with the number of the stream. -/
  | redirection (stream : Nat) (operator : String)
  /-- A word that the grammar knows. -/
  | keyword (text : String)

namespace Token

/-- How messages call a token. -/
def description : Token → String
  | ending => "end of file"
  | newline => "newline"
  | operator text | keyword text => "\"" ++ text ++ "\""
  | word .. => "word"
  | redirection .. => "redirection"

/-- Whether a token is an operator. -/
def isOperator (token : Token) (text : String) : Bool :=
  match token with
  | operator t => t = text
  | _ => false

/-- Whether a token is a word that the grammar knows. -/
def isKeyword (token : Token) (text : String) : Bool :=
  match token with
  | keyword t => t = text
  | _ => false

/-- Whether a token is the wanted operator or keyword. -/
def isWanted (token wanted : Token) : Bool :=
  match wanted with
  | operator t => token.isOperator t
  | keyword t => token.isKeyword t
  | _ => false

/-- Whether a list of commands can end before a token. -/
def endsList : Token → Bool
  | ending => true
  | operator t => t = ")" || t = ";;"
  | keyword t => ["then", "else", "elif", "fi", "do", "done", "esac", "\x7d"].contains t
  | _ => false

end Token

/-- The words that the grammar knows. -/
def keywords : List String :=
  ["!", "case", "do", "done", "elif", "else", "esac", "fi", "for", "if", "in", "then", "until",
    "while", "\x7b", "\x7d"]

/-- Why a text is no script. -/
structure Misreading where
  line : Nat
  message : String
deriving DecidableEq, Repr

/-- A here document whose text is still to come. -/
structure Awaited where
  number : Nat
  delimiter : String
  /-- Whether tabs are taken off the front of its lines. -/
  stripped : Bool
  /-- Whether the text is taken as it is. -/
  verbatim : Bool

/-- The text of an alias that is being read. -/
structure Insertion where
  name : String
  /-- How much is left of the source where the text ends. -/
  behind : Nat
  /-- Whether the text ends in a blank, so that the word behind it can be an alias as well. -/
  leadsOn : Bool

/-- What is being read. -/
structure Source where
  rest : List Char
  /-- The texts that words at the front of commands stand for. -/
  aliases : List (String × String) := []
  /-- The aliases whose texts are being read, the innermost first. -/
  inserted : List Insertion := []
  /-- Whether the last word can be an alias because of what is in front of it. -/
  invited : Bool := false
  /-- Whether the text comes from a file, whose lines can be shown as they are read. -/
  shown : Bool := false
  line : Nat := 1
  last : Token := .ending
  /-- Whether the last token was put back. -/
  back : Bool := false
  awaited : List Awaited := []
  /-- The texts of the here documents, by their numbers. -/
  documents : Array Word := #[]

/-- How much is left of the source itself, without the texts of aliases. -/
def Source.left (s : Source) : Nat :=
  match s.inserted.getLast? with
  | some outermost => min outermost.behind s.rest.length
  | none => s.rest.length

/-- A reader of a source. -/
abbrev Reader := EStateM Misreading Source

namespace Reader

/-! ## Failing -/

/-- Fails with a message about the current line. -/
def fail {α : Type} (message : String) : Reader α := do
  throw ⟨(← get).line, message⟩

/-- Fails because of the last token. -/
def unexpected {α : Type} (wanted : Option Token := none) : Reader α := do
  let found := (← get).last.description ++ " unexpected"
  match wanted with
  | none => fail found
  | some token => fail (found ++ " (expecting " ++ token.description ++ ")")

/-! ## Characters -/

/-- Spaces and tabs. -/
def isSpace (c : Char) : Bool := c = ' ' || c = '\t'

/-- The character that encloses commands in the older form of substitution. -/
def graveAccent : Char := Char.ofNat 0x60

/-- The characters that end an unquoted word. -/
def endsWord (c : Char) : Bool :=
  isSpace c || [ '\n', ';', '&', '|', '<', '>', '(', ')' ].contains c

/-- The characters that mean something even where words do not end. -/
def isActive (c : Char) : Bool :=
  [ '\'', '"', '\\', '$', graveAccent, '\n', Char.ofNat 0x7D ].contains c

/-- The characters that names start with. -/
def startsName (c : Char) : Bool := c.isAlpha || c = '_'

/-- The characters of names. -/
def isNameChar (c : Char) : Bool := c.isAlphanum || c = '_'

/-- The parameters that are called by a character that is no letter. -/
def isSpecial (c : Char) : Bool :=
  c.isDigit || [ '#', '?', '@', '*', '$', '!', '-' ].contains c

/-- Whether a text is a name. -/
def isName (text : String) : Bool :=
  match text.toList with
  | c :: rest => startsName c && rest.all isNameChar
  | [] => false

/-- The source without the broken lines in front, and how many they are. -/
def joinLines : List Char → List Char × Nat
  | '\\' :: '\n' :: rest => let (rest, n) := joinLines rest; (rest, n + 1)
  | rest => (rest, 0)

/-- Joins the lines that are broken right here. -/
def join : Reader Unit :=
  modify fun s => let (rest, n) := joinLines s.rest; { s with rest, line := s.line + n }

/-- The character in front, without taking it. -/
def peek : Reader (Option Char) := do
  join
  return (← get).rest.head?

/-- Takes the character in front. -/
def skip : Reader Unit :=
  modify fun s =>
    match s.rest with
    | '\n' :: rest => { s with rest, line := s.line + 1 }
    | _ :: rest => { s with rest }
    | [] => s

/-- Takes the character in front, whatever it is, and even if a line breaks there. -/
def next? : Reader (Option Char) := do
  let c := (← get).rest.head?
  skip
  return c

/-- Takes the given character, if it is in front. -/
def take? (c : Char) : Reader Bool := do
  if (← peek) = some c then
    skip
    return true
  else return false

/-- Finds out which aliases have been read to their end where a word starts. -/
def settleInsertions : Reader Unit :=
  modify fun s =>
    if s.inserted.isEmpty then s
    else
      let left := s.rest.length
      let (ended, inserted) := s.inserted.partition fun i => left ≤ i.behind
      { s with inserted, invited := ended.any Insertion.leadsOn }

/-- Puts the text of an alias in front of the source, if a word is one that is not being read
    already. -/
def insertAlias (word : String) : Reader Bool := do
  let s ← get
  match s.aliases.lookup word with
  | some text =>
      if s.inserted.any fun i => i.name = word then return false
      else
        let cs := text.toList
        let leadsOn := cs.getLast?.any isSpace
        set { s with
          rest := cs ++ s.rest
          inserted :=
            if cs.isEmpty then s.inserted else ⟨word, s.rest.length, leadsOn⟩ :: s.inserted }
        return true
  | none => return false

/-- Takes characters as long as a test holds.  The test may not hold of line ends. -/
def takeWhile (p : Char → Bool) : Reader String := do
  let s ← get
  let (taken, rest) := s.rest.span p
  set { s with rest }
  return String.ofList taken

/-- Takes everything up to a character, and the character.  Fails where it does not come. -/
def takeUntil (c : Char) (message : String) : Reader String := do
  let s ← get
  let (taken, rest) := s.rest.span (· ≠ c)
  let line := s.line + taken.count '\n'
  match rest with
  | [] =>
      set { s with rest, line }
      fail message
  | _ :: rest =>
      set { s with rest, line }
      return String.ofList taken

/-- Takes a name. -/
def takeName : Nat → Reader String
  | 0 => return ""
  | n + 1 => do
      let name ← takeWhile isNameChar
      match ← peek with
      | some c =>
          if isNameChar c then return name ++ (← takeName n) else return name
      | none => return name

/-- Puts the last token back. -/
def putBack : Reader Unit := modify fun s => { s with back := true }

end Reader

end WasmBinary.Machine.Script
