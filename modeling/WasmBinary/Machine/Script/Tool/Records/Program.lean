/-
  Programs that work on records.

  1. **Rules** — a program has rules, each with a pattern that records are to fit, and with what is
     done with those that do.  Other rules are for the beginning and for the end.

  2. **Expressions** have numbers and texts as their values, which become each other as needed.

  3. **Functions** have parameters; those that are not given are variables of their own.

  4. **Names** — a name that has keys is an array, and so is one that is given to a function whose
     parameter is an array.
-/
import WasmBinary.Sum

namespace WasmBinary.Machine.Script.Tool.Records

/-- A calculation with two numbers. -/
inductive Calculation
  | add
  | subtract
  | multiply
  | divide
  | remainder
  | power
deriving DecidableEq, Repr, Inhabited

/-- A comparison. -/
inductive Comparison
  | less
  | atMost
  | same
  | different
  | greater
  | atLeast
deriving DecidableEq, Repr, Inhabited

/-- Where a line comes from. -/
inductive LineSource
  | records
  | file
  | command
deriving DecidableEq, Repr, Inhabited

/-- Where output goes. -/
inductive Destination
  | replace
  | append
  | command
deriving DecidableEq, Repr, Inhabited

/-- An expression. -/
inductive Expr
  | number (x : Float)
  | text (s : String)
  /-- A regular expression, which stands for whether the record fits it. -/
  | pattern (source : String)
  | named (name : String)
  | field (index : Expr)
  | element (name : String) (keys : List Expr)
  | assign (target value : Expr)
  | update (c : Calculation) (target value : Expr)
  /-- Counts up or down by one.  The value is that before or after. -/
  | step (target : Expr) (up after : Bool)
  | choice (condition a b : Expr)
  | either (a b : Expr)
  | both (a b : Expr)
  | opposite (a : Expr)
  | contains (name : String) (keys : List Expr)
  | fits (a : Expr) (wanted : Bool) (b : Expr)
  | compare (c : Comparison) (a b : Expr)
  | join (a b : Expr)
  | calculate (c : Calculation) (a b : Expr)
  | negative (a : Expr)
  | positive (a : Expr)
  | call (name : String) (arguments : List Expr)
  | builtin (name : String) (arguments : List Expr)
  /-- The next line, which goes into a variable or becomes the record; nothing names the place. -/
  | line (source : LineSource) (place : List Expr) (target : List Expr)
  /-- Several expressions in parentheses. -/
  | list (items : List Expr)
deriving Inhabited

/-- Whether a value can be assigned to an expression. -/
def Expr.isTarget : Expr → Bool
  | named _ | field _ | element .. => true
  | _ => false

/-- A statement. -/
inductive Statement
  | nothing
  | evaluate (e : Expr)
  | print (formatted : Bool) (items : List Expr) (destination : Option (Destination × Expr))
  | block (all : List Statement)
  | choice (condition : Expr) (a b : Statement)
  | while (condition : Expr) (body : Statement)
  | repeatUntil (body : Statement) (condition : Expr)
  | count (first : Statement) (condition : Option Expr) (next body : Statement)
  | forEach (name array : String) (body : Statement)
  | leaveLoop
  | nextRound
  | nextRecord
  | nextFile
  | stop (status : Option Expr)
  | giveBack (value : Option Expr)
  | forget (array : String) (keys : Option (List Expr))
deriving Inhabited

/-- What records are to fit. -/
inductive Pattern
  | any
  | holds (e : Expr)
  /-- From a record that fits one expression to one that fits another. -/
  | range (number : Nat) (first last : Expr)
deriving Inhabited

/-- A function. -/
structure Function where
  name : String
  parameters : List String
  body : Statement
deriving Inhabited

/-- A program. -/
structure Program where
  beginnings : List Statement := []
  rules : List (Pattern × Statement) := []
  endings : List Statement := []
  functions : List Function := []
deriving Inhabited

/-! ## Names -/

/-- How a name is used. -/
inductive Use
  | array (name : String)
  /-- As an argument of a function, at a place. -/
  | argument (function : String) (place : Nat) (name : String)

/-- The uses of bare names as arguments of a function. -/
def argumentUses (function : String) (arguments : List Expr) : List Use :=
  arguments.zipIdx.filterMap fun (a, i) =>
    match a with
    | .named name | .list [.named name] => some (.argument function i name)
    | _ => none

mutual

/-- How names are used in an expression. -/
def Expr.uses : Expr → List Use
  | .field a | .opposite a | .negative a | .positive a => a.uses
  | .element name keys => .array name :: usesOfAll keys
  | .assign a b | .update _ a b | .either a b | .both a b | .compare _ a b | .join a b
  | .calculate _ a b => a.uses ++ b.uses
  | .fits a _ b => a.uses ++ b.uses
  | .step a _ _ => a.uses
  | .choice a b c => a.uses ++ b.uses ++ c.uses
  | .contains name keys => .array name :: usesOfAll keys
  | .call name arguments => argumentUses name arguments ++ usesOfAll arguments
  | .builtin name arguments =>
      (if name = "split" then argumentUses "split" ((arguments.drop 1).take 1) else []) ++
        usesOfAll arguments
  | .line _ place target => usesOfAll place ++ usesOfAll target
  | .list items => usesOfAll items
  | .number _ | .text _ | .pattern _ | .named _ => []

/-- How names are used in expressions. -/
def usesOfAll : List Expr → List Use
  | [] => []
  | e :: rest => e.uses ++ usesOfAll rest

end

mutual

/-- How names are used in a statement. -/
def Statement.uses : Statement → List Use
  | .evaluate e => e.uses
  | .print _ items goal => usesOfAll items ++ (goal.map fun d => d.2.uses).getD []
  | .block all => usesOfStatements all
  | .choice e a b => e.uses ++ a.uses ++ b.uses
  | .while e s => e.uses ++ s.uses
  | .repeatUntil s e => s.uses ++ e.uses
  | .count a e b s => a.uses ++ (e.map Expr.uses).getD [] ++ b.uses ++ s.uses
  | .forEach _ array s => .array array :: s.uses
  | .stop e | .giveBack e => (e.map Expr.uses).getD []
  | .forget array keys => .array array :: (keys.map usesOfAll).getD []
  | .nothing | .leaveLoop | .nextRound | .nextRecord | .nextFile => []

/-- How names are used in statements. -/
def usesOfStatements : List Statement → List Use
  | [] => []
  | s :: rest => s.uses ++ usesOfStatements rest

end

/-- Which parameters of functions are arrays, by what is known of them so far. -/
def Program.nextArrays (p : Program) (known : List (String × List Bool)) :
    List (String × List Bool) :=
  p.functions.map fun f =>
    let uses := f.body.uses
    (f.name, f.parameters.map fun name => uses.any fun
      | .array other => other = name
      | .argument "split" _ other => other = name
      | .argument function place other =>
          other = name && ((known.lookup function).getD []).getD place false)

/-- Which parameters of functions are arrays. -/
def Program.arrays (p : Program) : List (String × List Bool) :=
  let count := sumOf (p.functions.map fun f => f.parameters.length)
  (List.range (count + 1)).foldl (fun known _ => p.nextArrays known) []

end WasmBinary.Machine.Script.Tool.Records
