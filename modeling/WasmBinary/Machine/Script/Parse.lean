/-
  Reading scripts: words and commands.

  1. **Words** are read part by part.  What ends a part depends on where it stands: in plain text,
     between double quotes, in a substitution with braces, in arithmetic, or in a here document.

  2. **Commands** follow the grammar by recursive descent.  Whether a word is a keyword is decided
     when it is read, by whoever asks for the next token.

  3. **Here documents** are read at the end of the line that asks for them.

  Every reader that calls others is bounded by a number that shrinks with each call.  A text nests
  no deeper than it is long, and each level takes a few calls, so a small multiple of the length is
  bound enough.
-/
import WasmBinary.Machine.Script.Token
import WasmBinary.Sum

namespace WasmBinary.Machine.Script

namespace Reader

/-! ## Words -/

/-- Another part in front of a word.  Text that goes on is one part. -/
def joined : Part → Word → Word
  | .text a quoted, .text b alsoQuoted :: rest =>
      if quoted = alsoQuoted then .text (a ++ b) quoted :: rest
      else .text a quoted :: .text b alsoQuoted :: rest
  | part, word => part :: word

/-- What a reading of parts has come to: another part in front. -/
def onto (part : Part) (rest : Reader Word) : Reader Word := return joined part (← rest)

/-- A part for a run of text, unless it is empty. -/
def run (text : String) (quoted : Bool) (rest : Reader Word) : Reader Word := do
  if text = "" then rest else onto (.text text quoted) rest

/-- Whether a part has quoted text. -/
def isQuoted : Part → Bool
  | .text _ quoted => quoted
  | _ => false

/-- Where the text of a double-quoted kind is read. -/
inductive Place
  /-- Between double quotes. -/
  | quotes
  /-- In a substitution with braces. -/
  | braces
  /-- In arithmetic. -/
  | arithmetic
deriving DecidableEq

/-- The characters that a backslash protects between double quotes. -/
def isProtected (place : Place) (c : Char) : Bool :=
  [ '$', '"', '\\', graveAccent ].contains c || (place = .braces && c = Char.ofNat 0x7D)

/-- The complaint about quotes that nothing closes. -/
def unterminated : String := "Unterminated quoted string"

/-- The text of a command in its older form of substitution, where a backslash protects itself, the
    dollar sign, the enclosing character and, between double quotes, those quotes. -/
def enclosedText (quoted : Bool) : Nat → Reader (List Char)
  | 0 => fail "EOF in backquote substitution"
  | n + 1 => do
      join
      match ← next? with
      | none => fail "EOF in backquote substitution"
      | some c =>
          if c = graveAccent then return []
          else if c = '\\' then
            match ← next? with
            | none => fail "EOF in backquote substitution"
            | some c =>
                let rest ← enclosedText quoted n
                if c = '\\' || c = graveAccent || c = '$' || (quoted && c = '"') then
                  return c :: rest
                else return '\\' :: c :: rest
          else return c :: (← enclosedText quoted n)

/-- Runs a reader on another text, and comes back to this one. -/
def within {α : Type} (text : List Char) (reader : Reader α) : Reader α := do
  let outer ← get
  set { outer with rest := text, back := false, awaited := [], inserted := [] }
  let a ← reader
  modify fun s => { outer with documents := s.documents }
  return a

/-- The operator of a change, and what follows it: the change, and whether it has a colon. -/
def changeOf? : List Char → Option (Change × Bool × Nat)
  | ':' :: '-' :: _ => some (.orElse, true, 2)
  | ':' :: '=' :: _ => some (.assign, true, 2)
  | ':' :: '?' :: _ => some (.require, true, 2)
  | ':' :: '+' :: _ => some (.instead, true, 2)
  | '-' :: _ => some (.orElse, false, 1)
  | '=' :: _ => some (.assign, false, 1)
  | '?' :: _ => some (.require, false, 1)
  | '+' :: _ => some (.instead, false, 1)
  | '#' :: '#' :: _ => some (.cutFront true, false, 2)
  | '#' :: _ => some (.cutFront false, false, 1)
  | '%' :: '%' :: _ => some (.cutBack true, false, 2)
  | '%' :: _ => some (.cutBack false, false, 1)
  | _ => none

/-- Whether a change takes a pattern, which is unquoted even between quotes. -/
def takesPattern : Change → Bool
  | .cutFront _ | .cutBack _ => true
  | _ => false

/-- The first of some texts that is in front, which is taken. -/
def firstOf : List String → Reader String
  | [] => return ""
  | text :: others => do
      let s ← get
      if text.toList.isPrefixOf s.rest then
        set { s with rest := s.rest.drop text.length }
        return text
      else firstOf others

/-- The operator of a redirection, in front, as a token. -/
def redirector (stream : Option Nat) : Reader Token := do
  let operator ← firstOf [">>", ">|", ">&", ">", "<<-", "<<", "<&", "<>", "<"]
  return .redirection (stream.getD (if operator.startsWith ">" then 1 else 0)) operator

/-- A command in front of others. -/
def followedBy (first : Command) : Command → Command
  | .nothing => first
  | .sequence rest => .sequence (first :: rest)
  | second => .sequence [first, second]

/-- A word that assigns to a variable: its name, and the word of its value. -/
def assignment? : Word → Option (String × Word)
  | .text text false :: rest =>
      let name := text.toList.takeWhile (· ≠ '=')
      match text.toList.drop name.length with
      | '=' :: value =>
          if isName (String.ofList name) then
            some (String.ofList name,
              if value.isEmpty then rest else .text (String.ofList value) false :: rest)
          else none
      | _ => none
  | _ => none

/-- A command with redirections, if there are any. -/
def withStreams (line : Nat) (command : Command) : List Redirection → Command
  | [] => command
  | redirections => .redirected line command redirections

/-- The names of commands that no function can take. -/
def reservedNames : List String :=
  ["break", "continue", "eval", "exec", "exit", "export", "readonly", "return", "set", "shift",
    "times", "trap", "unset"]

mutual

/-- The parts of an unquoted word.  In braces, what would end a word does not, and the closing
    brace does. -/
def unquoted : Nat → (braces : Bool) → (literal : Bool) → Reader Word
  | 0, _, _ => fail unterminated
  | n + 1, braces, literal => do
      let text ← takeWhile fun c => !isActive c && (braces || !endsWord c)
      run text false do
        match ← peek with
        | none => if braces then fail "Missing '\x7d'" else return []
        | some '\'' =>
            skip
            let text ← takeUntil '\'' unterminated
            onto (.text text true) (unquoted n braces literal)
        | some '"' =>
            skip
            let inside ← quoted n .quotes
            let rest ← unquoted n braces literal
            match inside with
            | [.parameter "@" _] => return inside ++ rest
            | _ => return .text "" true :: inside ++ rest
        | some '\\' =>
            skip
            match ← next? with
            | none => return [.text "\\" true]
            | some c => onto (.text c.toString true) (unquoted n braces literal)
        | some '$' =>
            skip
            if literal then onto (.text "$" false) (unquoted n braces literal)
            else onto (← dollar n false) (unquoted n braces literal)
        | some c =>
            if c = graveAccent then
              skip
              if literal then onto (.text c.toString false) (unquoted n braces literal)
              else onto (← enclosed n false) (unquoted n braces literal)
            else if c = Char.ofNat 0x7D then
              skip
              if braces then return []
              else onto (.text c.toString false) (unquoted n braces literal)
            else if braces then
              skip
              onto (.text c.toString false) (unquoted n braces literal)
            else if endsWord c then return []
            else unquoted n braces literal

/-- The parts of a text of a double-quoted kind, with what closes it. -/
def quoted : Nat → Place → Reader Word
  | 0, _ => fail unterminated
  | n + 1, place => do
      let text ← takeWhile fun c => !isActive c && c ≠ '(' && c ≠ ')'
      run text true do
        match ← peek with
        | none =>
            fail (if place = .arithmetic then "Missing '))'" else unterminated)
        | some '$' =>
            skip
            onto (← dollar n true) (quoted n place)
        | some '\\' =>
            skip
            match ← next? with
            | none => return [.text "\\" true]
            | some c =>
                let text := if isProtected place c then c.toString else String.ofList ['\\', c]
                onto (.text text true) (quoted n place)
        | some '"' =>
            skip
            match place with
            | .quotes => return []
            | .arithmetic => onto (.text "\"" true) (quoted n place)
            | .braces =>
                let inside ← quoted n .quotes
                return inside ++ (← quoted n place)
        | some c =>
            skip
            if c = graveAccent then onto (← enclosed n true) (quoted n place)
            else if c = Char.ofNat 0x7D && place = .braces then return []
            else if c = '(' && place = .arithmetic then
              let inside ← nested n
              return .text "(" true :: inside ++ (← quoted n place)
            else if c = ')' && place = .arithmetic then
              if ← take? ')' then return []
              else onto (.text ")" true) (quoted n place)
            else onto (.text c.toString true) (quoted n place)

/-- What stands between parentheses in arithmetic, with the closing one. -/
def nested : Nat → Reader Word
  | 0 => fail "Missing '))'"
  | n + 1 => do
      let text ← takeWhile fun c => !isActive c && c ≠ '(' && c ≠ ')'
      run text true do
        match ← peek with
        | none => fail "Missing '))'"
        | some '$' =>
            skip
            onto (← dollar n true) (nested n)
        | some '\\' =>
            skip
            match ← next? with
            | none => fail "Missing '))'"
            | some c => onto (.text (String.ofList ['\\', c]) true) (nested n)
        | some c =>
            skip
            if c = graveAccent then onto (← enclosed n true) (nested n)
            else if c = '(' then
              let inside ← nested n
              return .text "(" true :: inside ++ (← nested n)
            else if c = ')' then return [.text ")" true]
            else onto (.text c.toString true) (nested n)

/-- What follows a dollar sign. -/
def dollar : Nat → (quoted : Bool) → Reader Part
  | 0, _ => fail unterminated
  | n + 1, inQuotes => do
      match ← peek with
      | some '(' =>
          skip
          if ← take? '(' then return .arithmetic (← quoted n .arithmetic) inQuotes
          else
            let outer ← get
            set { outer with awaited := [], back := false }
            let command ← list n false true
            let token ← next n false false false
            unless token.isOperator ")" do unexpected (some (.operator ")"))
            documentsOf n
            modify fun s => { s with awaited := outer.awaited, last := outer.last, back := false }
            return .output command inQuotes
      | some c =>
          if c = Char.ofNat 0x7B then
            skip
            braced n inQuotes
          else if startsName c then return .parameter (← takeName n) inQuotes
          else if isSpecial c then
            skip
            return .parameter c.toString inQuotes
          else return .text "$" inQuotes
      | none => return .text "$" inQuotes

/-- What follows a dollar sign and an opening brace. -/
def braced : Nat → (quoted : Bool) → Reader Part
  | 0, _ => fail unterminated
  | n + 1, inQuotes => do
      let close := Char.ofNat 0x7D
      match ← peek with
      | none => fail "Missing '\x7d'"
      | some c =>
          if c = '#' then
            let after := ((← get).rest.drop 1)
            match after with
            | d :: e :: _ =>
                if startsName d || d.isDigit then
                  skip
                  let name ← if d.isDigit then takeWhile Char.isDigit else takeName n
                  if ← take? close then return .length name inQuotes else spoilt n inQuotes
                else if isSpecial d && e = close then
                  skip; skip; skip
                  return .length d.toString inQuotes
                else
                  skip
                  substituted n "#" inQuotes
            | _ =>
                skip
                substituted n "#" inQuotes
          else if startsName c then substituted n (← takeName n) inQuotes
          else if c.isDigit then substituted n (← takeWhile Char.isDigit) inQuotes
          else if isSpecial c then
            skip
            substituted n c.toString inQuotes
          else
            unless c = close do modify fun s => { s with rest := s.rest.drop 1 }
            spoilt n inQuotes

/-- What follows the parameter of a substitution with braces. -/
def substituted : Nat → String → (quoted : Bool) → Reader Part
  | 0, _, _ => fail unterminated
  | n + 1, name, inQuotes => do
      if ← take? (Char.ofNat 0x7D) then return .parameter name inQuotes
      else
        match changeOf? (← get).rest with
        | none =>
            let wrong := if (← get).rest.head? = some ':' then 2 else 1
            modify fun s => { s with rest := s.rest.drop wrong }
            spoilt n inQuotes
        | some (change, colon, length) =>
            modify fun s => { s with rest := s.rest.drop length }
            let word ← if inQuotes && !takesPattern change then quoted n .braces
              else unquoted n true false
            return .changed name change colon word inQuotes

/-- The rest of a substitution that is none. -/
def spoilt : Nat → (quoted : Bool) → Reader Part
  | 0, _ => fail unterminated
  | n + 1, inQuotes => do
      let _ ← if inQuotes then quoted n .braces else unquoted n true false
      return .malformed

/-- A command in its older form of substitution. -/
def enclosed : Nat → (quoted : Bool) → Reader Part
  | 0, _ => fail unterminated
  | n + 1, inQuotes => do
      let text ← enclosedText inQuotes (← get).rest.length.succ
      let outer ← get
      let command ← within text do
        modify fun s => { s with line := 1 }
        list n false true
      modify fun s => { s with line := outer.line }
      return .output command inQuotes

/-- The lines of a here document, up to its delimiter. -/
def document : Nat → Awaited → (start : Bool) → Reader Word
  | 0, _, _ => return []
  | n + 1, doc, start => do
      if start then
        unless doc.verbatim do join
        if doc.stripped then let _ ← takeWhile (· = '\t')
        let rest := (← get).rest
        let line := rest.takeWhile (· ≠ '\n')
        if String.ofList line = doc.delimiter then
          modify fun s => { s with rest := rest.drop line.length }
          skip
          return []
      let text ← if doc.verbatim then takeWhile (· ≠ '\n')
        else takeWhile fun c => !([ '\\', '$', graveAccent, '\n' ].contains c)
      run text true do
        unless doc.verbatim do join
        match ← next? with
        | none => return []
        | some '\n' => onto (.text "\n" true) (document n doc true)
        | some '\\' =>
            match ← next? with
            | none => return [.text "\\" true]
            | some c =>
                let text := if [ '\\', '$', graveAccent ].contains c then c.toString
                  else String.ofList ['\\', c]
                onto (.text text true) (document n doc (c = '\n'))
        | some '$' => onto (← dollar n true) (document n doc false)
        | some c =>
            if c = graveAccent then onto (← enclosed n true) (document n doc false)
            else onto (.text c.toString true) (document n doc false)

/-- The here documents that are awaited. -/
def documentsOf : Nat → Reader Unit
  | 0 => return
  | n + 1 => do
      match (← get).awaited with
      | [] => return
      | doc :: rest =>
          modify fun s => { s with awaited := [] }
          let word ← document n doc true
          modify fun s =>
            { s with awaited := rest, documents := s.documents.setIfInBounds doc.number word }
          documentsOf n

/-- The next token, where a keyword is a word like any other. -/
def token : Nat → (literal : Bool) → Reader Token
  | 0, _ => fail unterminated
  | n + 1, literal => do
      let _ ← takeWhile isSpace
      match ← peek with
      | none => return .ending
      | some c =>
          if isSpace c then token n literal
          else if c = '#' then
            let _ ← takeWhile (· ≠ '\n')
            token n literal
          else if c = '\n' then
            skip
            return .newline
          else if c = '&' || c = '|' || c = ';' then
            skip
            if ← take? c then return .operator (String.ofList [c, c])
            else return .operator c.toString
          else if c = '(' || c = ')' then
            skip
            return .operator c.toString
          else if c = '<' || c = '>' then redirector none
          else
            settleInsertions
            let word ← unquoted n false literal
            match word, ← peek with
            | [.text text false], some c =>
                if (c = '<' || c = '>') && text.length = 1 && text.all Char.isDigit then
                  redirector (some (text.toNat?.getD 0))
                else return .word word false
            | _, _ => return .word (if word.isEmpty then emptyWord else word) (word.any isQuoted)
/-- The next token that is no line end; the here documents are read on the way. -/
def pastLines : Nat → Token → Reader Token
  | 0, t => return t
  | n + 1, t => do
      match t with
      | .newline =>
          documentsOf n
          pastLines n (← token n false)
      | _ => return t

/-- The next token, past line ends or with keywords where that is wanted.  Where a command starts,
    a word can be an alias. -/
def next : Nat → (lines : Bool) → (known : Bool) → (literal : Bool) → (starts : Bool := known) →
    Reader Token
  | 0, _, _, _, _ => fail unterminated
  | n + 1, lines, known, literal, starts => do
      let s ← get
      set { s with back := false, invited := s.back && s.invited }
      let first ← if s.back then pure s.last else token n literal
      let first ← if lines then pastLines n first else pure first
      match first with
      | .word [.text text false] false =>
          if known && keywords.contains text then
            modify fun s => { s with last := .keyword text }
            return .keyword text
          else
            let aliased ← if starts || (← get).invited then insertAlias text else pure false
            if aliased then next n lines known literal starts
            else
              modify fun s => { s with last := first }
              return first
      | _ =>
          modify fun s => { s with last := first }
          return first

/-- Commands one after the other.  A top list is a single line; others go on past line ends, up to
    a token that closes them.  Whether a list may hold nothing depends on where it stands. -/
def list : Nat → (top : Bool) → (optional : Bool) → Reader Command
  | 0, _, _ => fail unterminated
  | n + 1, top, optional => do
      let t ← next n (!top) true false
      match t with
      | .newline =>
          documentsOf n
          return .nothing
      | .ending =>
          documentsOf n
          putBack
          return .nothing
      | _ =>
          putBack
          if optional && !top && t.endsList then return .nothing
          let first ← andOr n (← pipeline n)
          let t ← next n false false false
          let first := if t.isOperator "&" then .background first else first
          match t with
          | .ending =>
              documentsOf n
              putBack
              return first
          | .newline =>
              if top then
                documentsOf n
                return first
              else
                putBack
                return followedBy first (← list n top true)
          | _ =>
              if t.isOperator "&" || t.isOperator ";" then
                return followedBy first (← list n top true)
              else if top then unexpected
              else
                putBack
                return first
/-- What follows a pipeline: others that depend on its success. -/
def andOr : Nat → Command → Reader Command
  | 0, _ => fail unterminated
  | n + 1, left => do
      let t ← next n false false false
      if t.isOperator "&&" then andOr n (.andThen left (← pipelineAfter n))
      else if t.isOperator "||" then andOr n (.orElse left (← pipelineAfter n))
      else
        putBack
        return left

/-- A pipeline that may start on a later line. -/
def pipelineAfter : Nat → Reader Command
  | 0 => fail unterminated
  | n + 1 => do
      let _ ← next n true true false
      putBack
      pipeline n

/-- Commands with pipes between them. -/
def pipeline : Nat → Reader Command
  | 0 => fail unterminated
  | n + 1 => do
      let t ← next n false false false
      let negated := t.isKeyword "!"
      if negated then
        let _ ← next n false true false
      putBack
      let first ← command n
      let result ← match ← piped n with
        | [] => pure first
        | others => pure (.pipe (first :: others))
      return if negated then .not result else result

/-- The commands behind pipes. -/
def piped : Nat → Reader (List Command)
  | 0 => fail unterminated
  | n + 1 => do
      let t ← next n false false false
      if t.isOperator "|" then
        let _ ← next n true true false
        putBack
        let c ← command n
        return c :: (← piped n)
      else
        putBack
        return []

/-- The token that has to come next. -/
def expect : Nat → Token → Reader Unit
  | 0, _ => fail unterminated
  | n + 1, wanted => do
      let t ← next n false false false
      unless t.isWanted wanted do unexpected (some wanted)

/-- A command without pipes. -/
def command : Nat → Reader Command
  | 0 => fail unterminated
  | n + 1 => do
      let t ← next n false false false
      let line := (← get).line
      match t with
      | .keyword "if" =>
          let c ← branches n
          expect n (.keyword "fi")
          redirected n (withStreams line c)
      | .keyword "while" => redirected n (withStreams line (← loop n true))
      | .keyword "until" => redirected n (withStreams line (← loop n false))
      | .keyword "for" => redirected n (withStreams line (← each n (.each line)))
      | .keyword "case" => redirected n (withStreams line (← choose n (.choose line)))
      | .keyword "\x7b" =>
          let c ← list n false false
          expect n (.keyword "\x7d")
          redirected n (withStreams line c)
      | .operator "(" =>
          let c ← list n false false
          expect n (.operator ")")
          redirected n (.subshell line c)
      | .word .. | .redirection .. =>
          putBack
          simple n (.simple line) true [] [] []
      | _ => unexpected

/-- A compound command with the redirections behind it. -/
def redirected : Nat → (List Redirection → Command) → Reader Command
  | 0, _ => fail unterminated
  | n + 1, build => return build (← redirections n)

/-- All redirections in front. -/
def redirections : Nat → Reader (List Redirection)
  | 0 => fail unterminated
  | n + 1 => do
      match ← next n false true false with
      | .redirection stream operator =>
          let r ← redirection n (stream, operator)
          return r :: (← redirections n)
      | _ =>
          putBack
          return []

/-- The target of a redirection. -/
def redirection : Nat → Nat × String → Reader Redirection
  | 0, _ => fail unterminated
  | n + 1, (stream, operator) => do
      let here := operator = "<<" || operator = "<<-"
      match ← next n false false here with
      | .word word quoted =>
          match operator with
          | ">" => return .file stream .replace word
          | ">|" => return .file stream .insistently word
          | ">>" => return .file stream .append word
          | "<" => return .file stream .input word
          | "<>" => return .file stream .both word
          | ">&" | "<&" => return .duplicate stream word
          | _ =>
              let number := (← get).documents.size
              modify fun s =>
                { s with
                  documents := s.documents.push []
                  awaited := s.awaited ++ [⟨number, plainText word, operator = "<<-", quoted⟩] }
              return .here stream number
      | _ => unexpected

/-- The rest of a simple command, behind what was read of it. -/
def simple : Nat → (List (String × Word) → List Word → List Redirection → Command) →
    (assigning : Bool) → List (String × Word) → List Word → List Redirection → Reader Command
  | 0, _, _, _, _, _ => fail unterminated
  | n + 1, build, assigning, assignments, words, reds => do
      match ← next n false false false assigning with
      | .word w _ =>
          match if assigning then assignment? w else none with
          | some a => simple n build true (a :: assignments) words reds
          | none => simple n build false assignments (w :: words) reds
      | .redirection stream operator =>
          let r ← redirection n (stream, operator)
          simple n build assigning assignments words (r :: reds)
      | t =>
          match t.isOperator "(", words, assignments, reds with
          | true, [name], [], [] => function n name
          | _, _, _, _ =>
              putBack
              return build assignments.reverse words.reverse reds.reverse
/-- The definition of a function, behind its name and an opening parenthesis. -/
def function : Nat → Word → Reader Command
  | 0, _ => fail unterminated
  | n + 1, name => do
      expect n (.operator ")")
      let text := match name with
        | [.text text false] => text
        | _ => ""
      if !isName text || reservedNames.contains text then fail "Bad function name"
      let _ ← next n true true false
      putBack
      return .define text (← command n)
/-- What follows `if` or `elif`. -/
def branches : Nat → Reader Command
  | 0 => fail unterminated
  | n + 1 => do
      let condition ← list n false false
      expect n (.keyword "then")
      let yes ← list n false false
      let t ← next n false false false
      if t.isKeyword "elif" then return .branch condition yes (← branches n)
      else if t.isKeyword "else" then return .branch condition yes (← list n false false)
      else
        putBack
        return .branch condition yes .nothing

/-- What follows `while` or `until`. -/
def loop : Nat → Bool → Reader Command
  | 0, _ => fail unterminated
  | n + 1, wanted => do
      let condition ← list n false false
      expect n (.keyword "do")
      let body ← list n false false
      expect n (.keyword "done")
      return .loop wanted condition body

/-- What follows `for`. -/
def each : Nat → (String → List Word → Command → Command) → Reader Command
  | 0, _ => fail unterminated
  | n + 1, build => do
      match ← next n false false false with
      | .word [.text name false] false =>
          unless isName name do fail "Bad for loop variable"
          let t ← next n true true false
          let words ← if t.isKeyword "in" then do
              let words ← wordsOfLine n
              let t := (← get).last
              match t with
              | .newline => pure words
              | _ => if t.isOperator ";" then pure words else unexpected
            else do
              unless t.isOperator ";" do putBack
              pure [[.parameter "@" true]]
          let t ← next n true true false
          unless t.isKeyword "do" do unexpected (some (.keyword "do"))
          let body ← list n false false
          expect n (.keyword "done")
          return build name words body
      | _ => fail "Bad for loop variable"

/-- Words up to another token. -/
def wordsOfLine : Nat → Reader (List Word)
  | 0 => fail unterminated
  | n + 1 => do
      match ← next n false false false with
      | .word w _ => return w :: (← wordsOfLine n)
      | _ => return []

/-- What follows `case`. -/
def choose : Nat → (Word → List (List Word × Command) → Command) → Reader Command
  | 0, _ => fail unterminated
  | n + 1, build => do
      match ← next n false false false with
      | .word subject _ =>
          let t ← next n true true false
          unless t.isKeyword "in" do unexpected (some (.keyword "in"))
          return build subject (← arms n)
      | _ => unexpected (some (.word [] false))

/-- The arms of a pattern match, with the word that closes it. -/
def arms : Nat → Reader (List (List Word × Command))
  | 0 => fail unterminated
  | n + 1 => do
      let t ← next n true true false false
      if t.isKeyword "esac" then return []
      let t ← if t.isOperator "(" then next n false false false else pure t
      let found ← patterns n t
      unless (← get).last.isOperator ")" do unexpected (some (.operator ")"))
      let body ← list n false true
      let t ← next n true true false false
      if t.isKeyword "esac" then return [(found, body)]
      else if t.isOperator ";;" then return (found, body) :: (← arms n)
      else unexpected (some (.operator ";;"))

/-- Patterns with bars between them, from a first token on, and the token behind them. -/
def patterns : Nat → Token → Reader (List Word)
  | 0, _ => fail unterminated
  | n + 1, t => do
      let word := match t with
        | .word w _ => w
        | .keyword text => [.text text false]
        | _ => emptyWord
      let t ← next n false false false
      if t.isOperator "|" then
        let t ← next n false false false
        return word :: (← patterns n t)
      else return [word]

end

/-- The next line of commands, or nothing at the end. -/
def line : Reader (Option Command) := do
  let s ← get
  let longest := sumOf (s.aliases.map fun entry => entry.2.length)
  let n := 8 * s.rest.length * (longest + 1) + 8 * longest + 64
  modify fun s => { s with back := false, awaited := [] }
  let c ← list n true false
  let s ← get
  match c, s.last, s.back with
  | .nothing, .ending, true => return none
  | c, _, _ => return some c

end Reader

end WasmBinary.Machine.Script
