/-
  Why a file could not be read or written.

  The message of a fault is the operating system's, with its number where it has one.
-/

namespace WasmBinary

/-- Why a path could not be used. -/
inductive FileFault
  | notFound
  | notADirectory
  | isADirectory
  | nameTooLong
  | alreadyThere
  | notEmpty
  | tooManyLinks
  | noSpace
  | permissionDenied
  | notPermitted
  | noDevice
  | malformedName
  /-- Any other reason, in the words of the operating system. -/
  | other (message : String)
deriving DecidableEq, Repr

namespace FileFault

/-- The words for a fault, without a number. -/
def words : FileFault → String
  | notFound => "No such file or directory"
  | notADirectory => "Not a directory"
  | isADirectory => "Is a directory"
  | nameTooLong => "File name too long"
  | alreadyThere => "File exists"
  | notEmpty => "Directory not empty"
  | tooManyLinks => "Too many levels of symbolic links"
  | noSpace => "No space left on device"
  | permissionDenied => "Permission denied"
  | notPermitted => "Operation not permitted"
  | noDevice => "No such device or address"
  | malformedName => "file name contained an unexpected NUL byte"
  | other message => message

/-- The number of a fault, where it has one. -/
def number? : FileFault → Option Nat
  | notFound => some 2
  | notADirectory => some 20
  | isADirectory => some 21
  | nameTooLong => some 36
  | alreadyThere => some 17
  | notEmpty => some 39
  | tooManyLinks => some 40
  | noSpace => some 28
  | permissionDenied => some 13
  | notPermitted => some 1
  | noDevice => some 6
  | malformedName | other _ => none

/-- How a fault is told. -/
def message (fault : FileFault) : String :=
  match fault.number? with
  | some n => fault.words ++ " (os error " ++ toString n ++ ")"
  | none => fault.words

end FileFault

end WasmBinary
