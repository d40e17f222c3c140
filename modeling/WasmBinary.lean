import WasmBinary.Machine.Host
import WasmBinary.Machine.Setup
import WasmBinary.Main
import WasmBinary.Proofs.Audit.Certificate
import WasmBinary.Proofs.Module.Faithful
import WasmBinary.Proofs.Leb128.Language
import WasmBinary.Proofs.Leb128.RoundTrip
import WasmBinary.Proofs.Audit.Written
import WasmBinary.Proofs.Module.Handles
import WasmBinary.Proofs.Leb128.Signed
import WasmBinary.Proofs.Leb128.Shortest
import WasmBinary.Proofs.Leb128.Writing
import WasmBinary.Proofs.Module.Rules
import WasmBinary.Proofs.Module.Discipline
import WasmBinary.Proofs.Section.Steps
import WasmBinary.Proofs.Section.Refusals
import WasmBinary.Proofs.Section.Joining
import WasmBinary.Proofs.Module.Entries
import WasmBinary.Proofs.Section.CodePayload
import WasmBinary.Proofs.Module.Signatures
import WasmBinary.Proofs.Module.Bodies
import WasmBinary.Proofs.Module.Counts
import WasmBinary.Proofs.Audit.Verdicts
import WasmBinary.Proofs.Leb128.Completion
import WasmBinary.Proofs.Module.Instructions
import WasmBinary.Proofs.Text.HexDump
import WasmBinary.Proofs.Text.ArrayLiteral
import WasmBinary.Proofs.Config.Reading
import WasmBinary.Proofs.Session.Course
import WasmBinary.Proofs.Section.Names
import WasmBinary.Proofs.Audit.Lines
import WasmBinary.Proofs.CommandLine
import WasmBinary.Proofs.Compiler
import WasmBinary.Proofs.Machine.Desk
