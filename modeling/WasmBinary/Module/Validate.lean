/-
  Writing a module that keeps the rules.

  `Module.write` writes anything.  `Module.encode` refuses a module that breaks a rule, with the
  first violation as the reason.
-/
import WasmBinary.Error
import WasmBinary.Module.Encode

namespace WasmBinary.Module

/-- Succeeds when the module keeps every rule. -/
def validate (m : Module) : Except Error Unit :=
  match m.violation? with
  | none => .ok ()
  | some v => .error (.invalid v)

/-- Writes a module that keeps the rules. -/
def encode (m : Module) : Except Error Encoded := do
  m.validate
  return m.write

end WasmBinary.Module
