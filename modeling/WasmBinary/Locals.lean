/-
  Local variables, written as runs of equal types.

  A function body declares its locals as a vector of pairs: how many, and of which type.  The
  writer merges neighbours of one type, so `[i32, i32, f64, i32]` becomes
  `[(2, i32), (1, f64), (1, i32)]`.  The count of a pair is a 32-bit word, which is what the
  format allows; a run longer than that wraps.
-/
import WasmBinary.Types

namespace WasmBinary

/-- `count` locals of one type, side by side. -/
structure LocalRun where
  count : UInt32
  type : ValType
deriving DecidableEq, Repr

namespace LocalRun

/-- Declares one more local in front: it joins the first run if the types agree. -/
def push (t : ValType) : List LocalRun → List LocalRun
  | [] => [⟨1, t⟩]
  | run :: runs =>
      if run.type = t then ⟨run.count + 1, t⟩ :: runs else ⟨1, t⟩ :: run :: runs

/-- The runs of a list of locals. -/
def group (locals : List ValType) : List LocalRun :=
  locals.foldr push []

/-- The locals that a list of runs declares. -/
def expand (runs : List LocalRun) : List ValType :=
  runs.flatMap fun run => List.replicate run.count.toNat run.type

/-- The count, then the code of the type. -/
def encode (run : LocalRun) : Bytes :=
  Leb128.encodeUnsigned run.count.toNat ++ [run.type.code]

@[simp] theorem group_nil : group [] = [] := rfl

@[simp] theorem group_cons (t : ValType) (locals : List ValType) :
    group (t :: locals) = push t (group locals) := rfl

end LocalRun

end WasmBinary
