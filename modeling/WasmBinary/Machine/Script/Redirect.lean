/-
  Leading streams elsewhere.

  The words of all redirections are replaced by what they stand for first; a mistake there ends
  the shell.  Then they are done in order, each with the streams that the ones before it have left.
  When one of them fails, the command is not run.  Afterwards the streams are as they were.
-/
import WasmBinary.Machine.Script.Expand

namespace WasmBinary.Machine.Script

open Run

namespace Redirection

/-- What is said about a file that cannot be opened. -/
def faultText (opening : Opening) (fault : FileFault) : String :=
  match fault with
  | .notFound | .notADirectory =>
      if opening = .input then "No such file" else "Directory nonexistent"
  | fault => fault.words

/-- What is being done to a file that is opened. -/
def verb (opening : Opening) : String :=
  if opening = .input then "cannot open " else "cannot create "

/-- The single digit that a text is. -/
def digit? (text : String) : Option Nat :=
  match text.toList with
  | [c] => if c.isDigit then some (c.toNat - 48) else none
  | _ => none

/-- A redirection whose words are replaced by what they stand for. -/
inductive Resolved
  | file (stream : Nat) (opening : Opening) (path : String)
  | duplicate (stream : Nat) (source : Option Nat)
  | here (stream document : Nat)

/-- Replaces the words of a redirection by what they stand for. -/
def resolve (output : Command → Run String) : Redirection → Run Resolved
  | .file stream opening target => return .file stream opening (← textOfWord output target)
  | .here stream document => return .here stream document
  | .duplicate stream source => do
      let text ← textOfWord output source
      match digit? text with
      | some source => return .duplicate stream (some source)
      | none =>
          if text = "-" then return .duplicate stream none
          else
            modifyShell fun s => { s with line := s.readTo }
            abort "Syntax error: Bad fd number"

/-- Does a redirection. -/
def apply (output : Command → Run String) : Resolved → Run Unit
  | .file stream opening path => do
      match ← openPath path opening (← shell).options.keeps with
      | .ok number => lead stream (some number)
      | .error fault => abort (verb opening ++ path ++ ": " ++ faultText opening fault)
  | .duplicate stream none => lead stream none
  | .duplicate stream (some source) => do
      match ← opening? source with
      | some number => lead stream (some number)
      | none => abort (toString source ++ ": Bad file descriptor")
  | .here stream document => do
      let text ← textOfWord output ((← get).world.documents.getD document [])
      let (pipe, reading, _) ← addPipe Pipe.greatest
      modifyPipes fun pipes => pipes.modify pipe fun p => { p with data := ByteText.toBytes text }
      lead stream (some reading)

/-- Does redirections: whether all of them could be done. -/
def applyAll (output : Command → Run String) (redirections : List Redirection) : Run Bool := do
  let resolved ← redirections.mapM (resolve output)
  match ← ending (resolved.forM (apply output)) with
  | none => return true
  | some .failed => return false
  | some stop => throw stop

/-- Runs something with redirections, if they can be done, and puts the streams back: whether they
    could be done. -/
def around (output : Command → Run String) (redirections : List Redirection) (body : Run Unit) :
    Run Bool :=
  if redirections.isEmpty then do
    body
    return true
  else
    keepingShell (fun before after => { after with streams := before.streams }) do
      if ← applyAll output redirections then
        body
        return true
      else return false

end Redirection

end WasmBinary.Machine.Script
