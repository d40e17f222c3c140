/-
  Modes of files, and the tools that change them.

  A mode is given in octal digits, or as changes of the rights of the owner, the group and all
  others.  What a change gives without saying to whom is masked like the mode of a new file.
-/
import WasmBinary.Machine.Script.Tool.Paths

namespace WasmBinary.Machine.Script.Tool

open Run

/-! ## Changes of modes -/

/-- Whose rights are meant, as a mask, and whether it was said. -/
def whoseBits (who : List Char) : Nat :=
  who.foldl (fun bits c => bits ||| match c with
    | 'u' => 0o4700
    | 'g' => 0o2070
    | 'o' => 0o1007
    | _ => 0o7777) 0

/-- The rights that a letter stands for, for everybody. -/
def rightBits (directory : Bool) (mode : Nat) (c : Char) : Nat :=
  match c with
  | 'r' => 0o444
  | 'w' => 0o222
  | 'x' => 0o111
  | 'X' => if directory || mode &&& 0o111 != 0 then 0o111 else 0
  | 's' => 0o6000
  | 't' => 0o1000
  | 'u' => mode / 64 % 8 * 0o111
  | 'g' => mode / 8 % 8 * 0o111
  | 'o' => mode % 8 * 0o111
  | _ => 0

/-- A mode after one change.  What is set for a directory keeps its special bits. -/
def changedMode (mask : Nat) (directory : Bool) (who : List Char) (mode : Nat) (operator : Char)
    (rights : List Char) : Nat :=
  let value := rights.foldl (fun bits c => bits ||| rightBits directory mode c) 0
  let affected := if who.isEmpty then 0o7777 - mask else whoseBits who
  let value := value &&& affected
  match operator with
  | '+' => mode ||| value
  | '-' => mode - (mode &&& value)
  | _ =>
      let kept := if directory then 0o6000 else 0
      let kept := kept - (kept &&& rights.foldl (fun bits c => bits ||| rightBits directory 0 c) 0)
      let cleared := (if who.isEmpty then 0o7777 else whoseBits who) - kept
      (mode - (mode &&& (cleared &&& 0o7777))) ||| value

/-- The mode behind operators with their rights, if they are any. -/
def modeAfterOperators (mask : Nat) (directory : Bool) (who : List Char) :
    Nat → List Char → Nat → Option Nat
  | 0, _, _ => none
  | n + 1, cs, mode =>
      match cs with
      | operator :: rest =>
          if !("+-=".contains operator) then none
          else
            let copied := rest.takeWhile fun c => "ugo".contains c
            let octal := rest.takeWhile fun c => '0' ≤ c && c ≤ '7'
            let rights := if !copied.isEmpty then copied.take 1
              else rest.takeWhile fun c => "rwxXst".contains c
            if !octal.isEmpty then
              let bits := Nat.ofDigitChars 8 octal 0
              if !who.isEmpty || octal.length < rest.length || 0o7777 < bits then none
              else
                some (match operator with
                  | '+' => mode ||| bits
                  | '-' => mode - (mode &&& bits)
                  | _ => bits)
            else
              let next := changedMode mask directory who mode operator rights
              let rest := rest.drop rights.length
              if rest.isEmpty then some next
              else modeAfterOperators mask directory who n rest next
      | [] => none

/-- A mode after the changes that a text asks for, if it is octal or symbolic. -/
def modeAfter (mask : Nat) (text : String) (mode : Nat) (directory : Bool := false) : Option Nat :=
  if text ≠ "" && text.all fun c => '0' ≤ c && c ≤ '7' then
    let bits := Nat.ofDigitChars 8 text.toList 0
    let kept := if directory && text.length < 5 then mode &&& 0o6000 else 0
    if bits < 4096 then some (bits ||| kept) else none
  else
    (text.splitOn ",").foldlM (fun mode change =>
      let cs := change.toList
      let who := cs.takeWhile fun c => "ugoa".contains c
      modeAfterOperators mask directory who (cs.length + 1) (cs.drop who.length) mode) mode

/-! ## Changing modes -/

/-- How modes are to be changed. -/
structure ModeSettings where
  change : String := ""
  recursive : Bool := false
  verbose : Bool := false
  changes : Bool := false
  quiet : Bool := false
  reference : Option String := none
  /-- Whether the whole system is left alone. -/
  guarded : Bool := false

/-- The next option of `chmod`. -/
def ModeSettings.step (s : ModeSettings) (option : Given) : Except Misuse ModeSettings :=
  match option.key with
  | "R" => .ok { s with recursive := true }
  | "v" => .ok { s with verbose := true }
  | "c" => .ok { s with changes := true }
  | "f" => .ok { s with quiet := true }
  | "reference" => .ok { s with reference := some option.value }
  | "preserve-root" => .ok { s with guarded := true }
  | "no-preserve-root" => .ok { s with guarded := false }
  | _ =>
      let word := option.written ++ option.value
      .ok { s with change := if s.change = "" then word else s.change ++ "," ++ word }

/-- A mode in digits and letters. -/
def modeText (mode : Nat) : String := octalMode mode ++ " (" ++ Node.rightsText mode ++ ")"

/-- Changes the mode of a node at a path. -/
def changeModeOf (self : String) (s : ModeSettings) (path : String) (i : Nat) (node : Node)
    (modeFor : Bool → Nat → Nat) : Run Bool := do
  let mode := modeFor node.isDirectory node.mode
  if node.owner = .system then
    unless s.quiet do
      say self ("changing permissions of " ++ quoted path ++ ": " ++ FileFault.notPermitted.words)
    if s.verbose then
      emit ("failed to change mode of " ++ quoted path ++ " from " ++ modeText node.mode ++ " to "
        ++ modeText mode ++ "\n")
    return false
  else
    modifyFiles fun files => files.modify i fun node => { node with mode }
    if mode != node.mode then
      if s.verbose || s.changes then
        emit ("mode of " ++ quoted path ++ " changed from " ++ modeText node.mode ++ " to "
          ++ modeText mode ++ "\n")
    else if s.verbose then
      emit ("mode of " ++ quoted path ++ " retained as " ++ modeText mode ++ "\n")
    return true

/-- Changes the mode of a file, and of those in it if that is wanted. -/
def changeModes (self : String) (s : ModeSettings) (modeFor : Bool → Nat → Nat) :
    Nat → (top : Bool) → String → Run Bool
  | 0, _, _ => return true
  | n + 1, top, path => do
      let refuse (text : String) : Run Bool := do
        unless s.quiet do say self text
        if s.verbose then emit (quoted path ++ " could not be accessed\n")
        return false
      match ← lookAt path top with
      | .error fault =>
          let dangling := (← lookAt path false).isOk
          refuse (if dangling then "cannot operate on dangling symlink " ++ quoted path
            else "cannot access " ++ quoted path ++ ": " ++ fault.words)
      | .ok (i, node) =>
          if s.recursive && s.guarded && i = 0 then
            sparesSystem self path
            return false
          if node.isLink then
            if s.verbose then
              emit ("neither symbolic link " ++ quoted path ++ " nor referent has been changed\n")
            return true
          let mut good ← changeModeOf self s path i node modeFor
          if s.recursive && node.isDirectory then
            match (← files).node? i with
            | some now =>
                if !now.allows .read then
                  let _ ← refuse ("cannot read directory " ++ quoted path ++ ": " ++
                    FileFault.permissionDenied.words)
                  good := false
                else
                  for name in now.names do
                    let fine ← changeModes self s modeFor n false (inside path name)
                    good := good && fine
            | none => pure ()
          return good

/-- The options of `chmod`; most letters of modes can stand behind a hyphen. -/
def modeChoices : String :=
  "c,changes R,recursive --no-preserve-root --preserve-root f,quiet --reference= f,silent " ++
    "v,verbose r=? w=? x=? X=? s=? t=? u=? g=? o=? a=? ,=? +=? 0=? 1=? 2=? 3=? 4=? 5=? 6=? " ++
    "7=?"

/-- Changes the modes of files. -/
def changeMode : Tool := fun self arguments =>
  withSettings modeChoices {} ModeSettings.step self arguments fun s operands => do
    let given := s.change ≠ ""
    let change := if given then s.change else operands.headD ""
    let paths := if given || s.reference.isSome then operands else operands.drop 1
    let mask := (← get).world.mask
    if paths.isEmpty then
      if !given && !operands.isEmpty then
        misuse self ("missing operand after " ++ cited change)
      else misuse self "missing operand"
    else
      match s.reference with
      | some path =>
          match ← lookAt path with
          | .error fault =>
              fail self ("failed to get attributes of " ++ quoted path ++ ": " ++ fault.words)
          | .ok (_, node) =>
              forEach paths (changeModes self s (fun _ _ => node.mode) deepest true)
      | none =>
          if (modeAfter mask change 0).isNone then misuse self ("invalid mode: " ++ cited change)
          else
            let modeFor (directory : Bool) (mode : Nat) : Nat :=
              (modeAfter mask change mode directory).getD mode
            forEach paths fun path => do
              let good ← changeModes self s modeFor deepest true path
              let surprising ← if given then surprise self change path else pure false
              return good && !surprising
where
  /-- Says where a mode behind a hyphen has left rights because of the mask. -/
  surprise (self change path : String) : Run Bool := do
    match ← lookAt path with
    | .error _ => return false
    | .ok (_, node) =>
        let naive := (modeAfter 0 change node.mode node.isDirectory).getD node.mode
        if node.mode &&& (0o7777 - naive) != 0 then
          say self (shown path ++ ": new permissions are " ++ Node.rightsText node.mode
            ++ ", not " ++ Node.rightsText naive)
          return true
        else return false

end WasmBinary.Machine.Script.Tool
