/-
  The panic fixture: a small module that loader tests are run with.

  It imports one function, `env._panic`, and exports a memory and the function `doPanic`, which
  calls the imported one with `(100, 10)`.

  1. **Making** — the module is built step by step (`Fixture.make`).  Every index in a step is the
     one that an earlier step handed out, so nothing here counts types or functions by hand.  The
     steps are kept, for they are what is logged about the making.

  2. **Text and body** — the same module stands here as text for other compilers to read, and the
     bytes of its one function body can be had without the module around them.
-/
import WasmBinary.Module.Builder

namespace WasmBinary.Fixture

/-- What the fixture is called. -/
def name : String := "createWasmThatCallsPanic"

/-- The fixture in the text format. -/
def wat : String :=
  "(module\n" ++
  "  (import \"env\" \"_panic\" (func $panic (param i32 i32)))\n" ++
  "  (memory (export \"memory\") 1)\n" ++
  "  (func (export \"doPanic\")\n" ++
  "    i32.const 100\n" ++
  "    i32.const 10\n" ++
  "    call $panic))\n"

/-- The function that calls `panic` with `(100, 10)`. -/
def doPanic (panic : FuncIdx) (typ : TypeIdx) : Func where
  typ := typ
  body := [.i32Const 100, .i32Const 10, .call panic]

/-- Building step by step, with the steps that were taken.  A step that fails ends it, and what was
    built until then stays. -/
abbrev Making := ExceptT Error (StateM (Builder × List Declaration))

namespace Making

/-- Takes a step: the index that it hands out, if it does. -/
def take (step : Declaration) : Making (Option UInt32) := do
  let (builder, steps) ← get
  match builder.declare step with
  | .error e => throw e
  | .ok (idx, builder) =>
      set (builder, steps ++ [step])
      return idx

/-- Takes a step for the index that it hands out. -/
def index (step : Declaration) : Making UInt32 := do
  return (← take step).getD 0

end Making

/-- Makes the fixture. -/
def make : Making Unit := do
  let panicType ← Making.index (.funcType ⟨[.i32, .i32], []⟩)
  let voidType ← Making.index (.funcType ⟨[], []⟩)
  let panic ← Making.index (.importFunc "env" "_panic" panicType)
  let run ← Making.index (.func (doPanic panic voidType))
  let memory ← Making.index (.memory ⟨1, none⟩)
  let _ ← Making.take (.exportMemory "memory" memory)
  let _ ← Making.take (.exportFunc "doPanic" run)

/-- How the making ends, with the builder and the steps behind it. -/
def made : Except Error Unit × Builder × List Declaration :=
  make.run.run ({}, [])

/-- The steps that build the fixture. -/
def declarations : List Declaration :=
  made.2.2

/-- The fixture as a module. -/
def module : Except Error Module :=
  made.1.map fun () => made.2.1.finish

/-- The body of `doPanic`, written on its own. -/
def expectedBody : Bytes := (doPanic 0 1).encodeBody

end WasmBinary.Fixture
