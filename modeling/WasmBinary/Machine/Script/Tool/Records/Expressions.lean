/-
  Reading the expressions of programs that work on records.

  Assignments bind least, then choices, conditions, membership, fits, comparisons, joined texts,
  sums, products, signs, powers, lines of commands, and places.
-/
import WasmBinary.Machine.Script.Tool.Records.Reader

namespace WasmBinary.Machine.Script.Tool.Records.Reader

/-- The calculation that a mark assigns with. -/
def updateOf? : String → Option Calculation
  | "+=" => some .add
  | "-=" => some .subtract
  | "*=" => some .multiply
  | "/=" => some .divide
  | "%=" => some .remainder
  | "^=" => some .power
  | _ => none

/-- The comparison that a mark means. -/
def comparisonOf? (prints : Bool) : String → Option Comparison
  | "<" => some .less
  | "<=" => some .atMost
  | "==" => some .same
  | "!=" => some .different
  | ">" => if prints then none else some .greater
  | ">=" => some .atLeast
  | _ => none

/-- Whether an expression can start with a token, where another one is in front of it. -/
def starts : Token → Bool
  | .number .. | .text _ | .pattern _ | .name _ | .callee _ | .builtin _ => true
  | .keyword s => s = "getline"
  | .mark s => ["$", "!", "(", "++", "--", "-", "+"].contains s
  | _ => false

/-- How many arguments a known function takes: at least, and at most. -/
def arity : String → Nat × Nat
  | "length" => (0, 1)
  | "substr" => (2, 3)
  | "sprintf" => (1, 1000)
  | "index" => (2, 2)
  | "split" => (2, 3)
  | "sub" | "gsub" => (2, 3)
  | "match" => (2, 2)
  | "atan2" => (2, 2)
  | "rand" | "systime" => (0, 0)
  | "srand" | "fflush" => (0, 1)
  | "strftime" => (0, 3)
  | "mktime" => (1, 2)
  | _ => (1, 1)

/-- A call of a function with arguments. -/
def called (name : String) (arguments : List Expr) : Reader Expr := do
  let s ← get
  match s.functions.lookup name with
  | some parameters =>
      if parameters < arguments.length then
        note (some s.line) ("too many arguments in call to " ++ name)
  | none => set { s with calls := ⟨name, arguments.length, s.line⟩ :: s.calls }
  return .call name arguments

/-- Whether nothing follows that could belong to what is printed. -/
def endsPrinted : Reader Bool := return match ← peek with
  | .mark s => [";", "\x7d", ">", ">>", "|"].contains s
  | .lineEnd => true
  | _ => false

mutual

/-- An expression.  The flag tells that it is printed. -/
def expression : Nat → (prints : Bool) → Reader Expr
  | 0, _ => misplaced
  | n + 1, prints => do
      let condition ← anyOf n prints
      if ← takeMark "?" then
        skipLines
        let a ← expression n prints
        skipLines
        expect ":"
        skipLines
        return .choice condition a (← expression n prints)
      else return condition

/-- Expressions of which one has to hold. -/
def anyOf : Nat → Bool → Reader Expr
  | 0, _ => misplaced
  | n + 1, prints => do anyOfRest n prints (← allOf n prints)

/-- What follows an expression of which one has to hold. -/
def anyOfRest : Nat → Bool → Expr → Reader Expr
  | 0, _, a => return a
  | n + 1, prints, a => do
      if ← takeMark "||" then
        skipLines
        anyOfRest n prints (.either a (← allOf n prints))
      else return a

/-- Expressions that all have to hold. -/
def allOf : Nat → Bool → Reader Expr
  | 0, _ => misplaced
  | n + 1, prints => do allOfRest n prints (← member n prints)

/-- What follows an expression that has to hold. -/
def allOfRest : Nat → Bool → Expr → Reader Expr
  | 0, _, a => return a
  | n + 1, prints, a => do
      if ← takeMark "&&" then
        skipLines
        allOfRest n prints (.both a (← member n prints))
      else return a

/-- An expression that may be looked for in an array. -/
def member : Nat → Bool → Reader Expr
  | 0, _ => misplaced
  | n + 1, prints => do memberRest n (← fit n prints)

/-- What follows an expression that may be looked for. -/
def memberRest : Nat → Expr → Reader Expr
  | 0, a => return a
  | n + 1, a => do
      if ← takeWord "in" then memberRest n (.contains (← expectArray) [a]) else return a

/-- An expression that may have to fit another one. -/
def fit : Nat → Bool → Reader Expr
  | 0, _ => misplaced
  | n + 1, prints => do fitRest n prints (← comparison n prints)

/-- What follows an expression that may have to fit another one. -/
def fitRest : Nat → Bool → Expr → Reader Expr
  | 0, _, a => return a
  | n + 1, prints, a => do
      if ← takeMark "~" then fitRest n prints (.fits a true (← comparison n prints))
      else if ← takeMark "!~" then fitRest n prints (.fits a false (← comparison n prints))
      else return a

/-- Expressions that are compared. -/
def comparison : Nat → Bool → Reader Expr
  | 0, _ => misplaced
  | n + 1, prints => do comparisonRest n prints (← assigned n prints)

/-- What follows an expression that may be compared. -/
def comparisonRest : Nat → Bool → Expr → Reader Expr
  | 0, _, a => return a
  | n + 1, prints, a => do
      match ← peek with
      | .mark m =>
          match comparisonOf? prints m with
          | some c =>
              skip
              comparisonRest n prints (.compare c a (← assigned n prints))
          | none => return a
      | _ => return a

/-- Joined texts, or a place that something is assigned to. -/
def assigned : Nat → Bool → Reader Expr
  | 0, _ => misplaced
  | n + 1, prints => do
      let a ← joined n prints (← sum n prints)
      if !a.isTarget then return a
      match ← peek with
      | .mark "=" =>
          skip
          skipLines
          return .assign a (← expression n prints)
      | .mark m =>
          match updateOf? m with
          | some c =>
              skip
              skipLines
              return .update c a (← expression n prints)
          | none => return a
      | _ => return a

/-- Texts that are joined. -/
def joined : Nat → Bool → Expr → Reader Expr
  | 0, _, a => return a
  | n + 1, prints, a => do
      if starts (← peek) then joined n prints (.join a (← sum n prints)) else return a

/-- A sum. -/
def sum : Nat → Bool → Reader Expr
  | 0, _ => misplaced
  | n + 1, prints => do sumRest n prints (← product n prints)

/-- What follows a part of a sum. -/
def sumRest : Nat → Bool → Expr → Reader Expr
  | 0, _, a => return a
  | n + 1, prints, a => do
      if ← takeMark "+" then sumRest n prints (.calculate .add a (← product n prints))
      else if ← takeMark "-" then sumRest n prints (.calculate .subtract a (← product n prints))
      else return a

/-- A product. -/
def product : Nat → Bool → Reader Expr
  | 0, _ => misplaced
  | n + 1, prints => do productRest n prints (← signed n prints)

/-- What follows a part of a product. -/
def productRest : Nat → Bool → Expr → Reader Expr
  | 0, _, a => return a
  | n + 1, prints, a => do
      if ← takeMark "*" then productRest n prints (.calculate .multiply a (← signed n prints))
      else if ← takeMark "/" then productRest n prints (.calculate .divide a (← signed n prints))
      else if ← takeMark "%" then productRest n prints (.calculate .remainder a (← signed n prints))
      else return a

/-- An expression with a sign. -/
def signed : Nat → Bool → Reader Expr
  | 0, _ => misplaced
  | n + 1, prints => do
      if ← takeMark "!" then return .opposite (← signed n prints)
      else if ← takeMark "-" then return .negative (← signed n prints)
      else if ← takeMark "+" then return .positive (← signed n prints)
      else power n prints

/-- A power. -/
def power : Nat → Bool → Reader Expr
  | 0, _ => misplaced
  | n + 1, prints => do
      let a ← commandLine n prints (← counted n prints)
      if ← takeMark "^" then return .calculate .power a (← signed n prints) else return a

/-- What follows an expression that may be a command. -/
def commandLine : Nat → Bool → Expr → Reader Expr
  | 0, _, a => return a
  | n + 1, prints, a => do
      if prints then return a
      match ← peek, ← second with
      | .mark "|", .keyword "getline" =>
          skip
          skip
          let target ← lineTarget n prints
          commandLine n prints (.line .command [a] target)
      | _, _ => return a

/-- The place that a line goes to, if one is in front. -/
def lineTarget : Nat → Bool → Reader (List Expr)
  | 0, _ => return []
  | n + 1, prints => do
      match ← peek with
      | .name _ => return [← primary n prints]
      | .mark "$" => return [← primary n prints]
      | _ => return []

/-- A place that may be counted up or down. -/
def counted : Nat → Bool → Reader Expr
  | 0, _ => misplaced
  | n + 1, prints => do
      match ← peek with
      | .mark "++" | .mark "--" =>
          let up ← atMark "++"
          skip
          let a ← primary n prints
          if a.isTarget then return .step a up true else misplaced
      | _ =>
          let a ← primary n prints
          if a.isTarget then
            if ← takeMark "++" then return .step a true false
            else if ← takeMark "--" then return .step a false false
            else return a
          else return a

/-- Expressions with commas between them. -/
def expressions : Nat → Bool → Reader (List Expr)
  | 0, _ => misplaced
  | n + 1, prints => do
      let a ← expression n prints
      if ← takeMark "," then
        skipLines
        return a :: (← expressions n prints)
      else return [a]

/-- Arguments behind an opening parenthesis. -/
def arguments : Nat → Reader (List Expr)
  | 0 => misplaced
  | n + 1 => do
      skipLines
      if ← takeMark ")" then return []
      let all ← expressions n false
      skipLines
      expect ")"
      return all

/-- At least some arguments behind an opening parenthesis, and at most some. -/
def someArguments : Nat → (least most : Nat) → Reader (List Expr)
  | 0, _, _ => misplaced
  | n + 1, least, most => do
      let a ← expression n false
      let more ← if least ≤ 1 then pure (1 < most && (← atMark ",")) else pure true
      expect (if more then "," else ")")
      if more then
        skipLines
        return a :: (← someArguments n (least - 1) (most - 1))
      else return [a]

/-- Arguments behind the opening parenthesis of a call.  A name that is an argument may stand for
    an array. -/
def callArguments : Nat → Reader (List Expr)
  | 0 => misplaced
  | n + 1 => do
      skipLines
      if ← takeMark ")" then return []
      let a ← match ← peek, ← second with
        | .name s, .mark "," | .name s, .mark ")" => do
            skip
            pure (Expr.named s)
        | _, _ => expression n false
      if ← takeMark "," then return a :: (← callArguments n)
      skipLines
      expect ")"
      return [a]

/-- An expression that stands by itself. -/
def primary : Nat → Bool → Reader Expr
  | 0, _ => misplaced
  | n + 1, prints => do
      match ← peek with
      | .number x _ =>
          skip
          return .number x
      | .text s =>
          skip
          return .text s
      | .pattern s =>
          if let .error text := Regex.parse .records s then noteHere (regexFault text s)
          skip
          return .pattern s
      | .name s =>
          skip
          if (← isFunction s) then
            expect "("
            called s (← callArguments n)
          else if ← takeMark "[" then
            noteKind .array s
            let keys ← expressions n false
            expect "]"
            return .element s keys
          else
            noteKind .variable s
            return .named s
      | .callee s =>
          skip
          skip
          called s (← callArguments n)
      | .builtin "length" =>
          skip
          if ← takeMark "(" then
            skipLines
            if ← takeMark ")" then return .builtin "length" []
            let item ← match ← peek, ← second with
              | .name s, .mark ")" => do
                  skip
                  pure (Expr.named s)
              | _, _ => expression n false
            expect ")"
            return .builtin "length" [item]
          else return .builtin "length" []
      | .builtin "split" =>
          skip
          expect "("
          let text ← expression n false
          expect ","
          skipLines
          let target := Expr.named (← expectArray)
          let separator ← if ← takeMark "," then do pure [← expression n false] else pure []
          expect ")"
          return .builtin "split" (text :: target :: separator)
      | .builtin s =>
          skip
          expect "("
          let (least, most) := arity s
          let items ← if ["sub", "gsub", "match"].contains s then someArguments n least most
            else arguments n
          if items.length < least || most < items.length then
            note (some (← get).line) ("wrong number of arguments in call to " ++ s)
          return .builtin s items
      | .mark "$" =>
          skip
          match ← peek with
          | .mark "++" | .mark "--" => return .field (← counted n prints)
          | .mark "-" =>
              skip
              return .field (.negative (← primary n prints))
          | _ => return .field (← primary n prints)
      | .mark "(" =>
          skip
          let items ← expressions n false
          expect ")"
          match items with
          | [a] => return .list [a]
          | items =>
              if ← takeWord "in" then return .contains (← expectArray) items
              else if prints && (← endsPrinted) then return .list items
              else misplaced
      | .keyword "getline" =>
          skip
          let target ← lineTarget n prints
          if ← takeMark "<" then return .line .file [← counted n prints] target
          else return .line .records [] target
      | .mark "-" | .mark "+" | .mark "!" => signed n prints
      | _ => misplaced

end

end WasmBinary.Machine.Script.Tool.Records.Reader
