/-
  What there is around a program: the machine, its memory of files, its terminal and its devices.

  1. **The machine** has a kind and a number of processors, and a system runs on it.

  2. **Storage** is written at once; a file can be written over so that nothing is left of it.

  3. **What is missing** — there is no terminal and no labels that restrict programs, and devices
     cannot be made.
-/
import WasmBinary.Machine.Script.Tool.Making
import WasmBinary.Machine.Script.Tool.Users

namespace WasmBinary.Machine.Script.Tool

open Run

/-! ## The machine -/

namespace Surroundings

/-- The kind of the machine. -/
def kind : String := "x86_64"

/-- How many processors there are. -/
def processors : Nat := 4

/-- What is told about the system, by the letters that ask for it, in their order. -/
def facts : List (Char × String) :=
  [ ('s', "Linux"), ('n', "localhost"), ('r', "6.8.0"), ('v', "#1 SMP PREEMPT_DYNAMIC"),
    ('m', kind), ('p', kind), ('i', kind), ('o', "GNU/Linux") ]

end Surroundings

/-- Tells what kind of system this is. -/
def systemName : Tool := fun self arguments =>
  withUsage ("a,all s,kernel-name,sysname n,nodename r,kernel-release,release v,kernel-version " ++
      "m,machine p,processor i,hardware-platform o,operating-system") self arguments fun u =>
    withFew 0 self u do
      let wanted (letter : Char) : Bool :=
        if u.options.isEmpty then letter = 's' else u.has 'a' || u.has letter
      emit (" ".intercalate ((Surroundings.facts.filter fun fact => wanted fact.1).map (·.2)) ++
        "\n")
      finish 0

/-- Tells the kind of the machine. -/
def machineKind : Tool := fun self arguments =>
  withUsage "" self arguments fun u =>
    withFew 0 self u do
      emit (Surroundings.kind ++ "\n")
      finish 0

/-- Tells the number of the machine. -/
def machineNumber : Tool := fun self arguments =>
  withUsage "" self arguments fun u =>
    withFew 0 self u do
      emit "007f0100\n"
      finish 0

/-- Tells how many processors there are. -/
def processorCount : Tool := fun self arguments =>
  let step (ignored : Nat) (option : Given) : Except Misuse Nat :=
    if option.key = "ignore" then amountOr "invalid number" "" option.value else .ok ignored
  withSettings "--all --ignore=" 0 step self arguments fun ignored operands =>
    withFew 0 self { operands } do
      emit (toString (max 1 (Surroundings.processors - ignored)) ++ "\n")
      finish 0

/-! ## Storage -/

/-- Makes sure that files are stored; they always are. -/
def store : Tool := fun self arguments =>
  withUsage "d,data f,file-system" self arguments fun u => do
    if u.has 'd' && u.has 'f' then
      fail self "cannot specify both --data and --file-system"
    else if u.has 'd' && u.operands.isEmpty then fail self "--data needs at least one argument"
    else
      forEach u.operands fun path => do
        match ← openPath path .input with
        | .ok _ => return true
        | .error .permissionDenied =>
            match ← openPath path .append with
            | .ok _ => return true
            | .error fault => notOpened self path fault
        | .error fault => notOpened self path fault
where
  /-- Says that a file could not be opened. -/
  notOpened (self path : String) (fault : FileFault) : Run Bool := do
    say self ("error opening " ++ quoted path ++ ": " ++ fault.words)
    return false

namespace Shredding

/-- How files are written over. -/
structure Settings where
  passes : Nat := 3
  zeros : Bool := false
  verbose : Bool := false
  exact : Bool := false
  removes : Bool := false
  size : Option Nat := none

/-- The next option. -/
def Settings.step (s : Settings) (option : Given) : Except Misuse Settings := do
  match option.key with
  | "n" => return { s with passes := ← amountOr "invalid number of passes" "" option.value }
  | "s" =>
      let size ← amountOr "invalid file size" "cbBkKMGTPEZYRQ0" option.value
      return { s with size := some size }
  | "u" => return { s with removes := true }
  | "remove" =>
      if option.valued then
        let _ ← choiceOf ["unlink", "wipe", "wipesync"] option.value "--remove"
        return { s with removes := true }
      else return { s with removes := true }
  | "v" => return { s with verbose := true }
  | "x" => return { s with exact := true }
  | "z" => return { s with zeros := true }
  | _ => return s

/-- Writes over a file: whether that was possible. -/
def writeOver (self : String) (s : Settings) (path : String) : Run Bool := do
  if path = "-" then
    say self "-: invalid file type"
    return false
  let found ← lookAt path
  let before := (found.toOption.map fun entry => entry.2.size).getD 0
  let fault? : Option FileFault ← match found with
    | .error fault => pure (some fault)
    | .ok _ => do
        match ← openPath path .append with
        | .error fault => pure (some fault)
        | .ok _ => pure none
  match fault? with
  | some fault =>
      say self (shown path ++ ": failed to open for writing: " ++ fault.words)
      return false
  | none =>
      let size := s.size.getD (if s.exact then before else (before + 4095) / 4096 * 4096)
      let rounds := s.passes + if s.zeros then 1 else 0
      if s.verbose then
        for i in List.range rounds do
          say self (shown path ++ ": pass " ++ toString (i + 1) ++ "/" ++ toString rounds ++ " (" ++
            (if i < s.passes then "random" else "000000") ++ ")...")
      if 0 < rounds && 0 < size then
        if let .ok number ← openPath path .insistently then
          let _ ← writeOpened number (zeroBytes size)
      if s.removes then
        match ← spotOf path false with
        | .error _ => pure ()
        | .ok spot =>
            if let some i := spot.node then
              if s.verbose then
                let length := (baseName path).length
                let folder := if path.contains '/' then directoryName path ++ "/" else ""
                let renamed (former latter : String) : Run Unit :=
                  say self (shown (folder ++ former) ++ ": renamed to " ++ shown (folder ++ latter))
                say self (shown path ++ ": removing")
                let names := (List.range length).map fun n => "".pushn '0' (length - n)
                for pair in ((baseName path) :: names).zip names do renamed pair.1 pair.2
              let _ ← dropName spot i
              if s.verbose then say self (shown path ++ ": removed")
      return true

end Shredding

/-- Writes over files, so that nothing is left of what was in them. -/
def shred : Tool := fun self arguments =>
  withSettings ("x,exact f,force n,iterations= s,size= --random-source= --remove=? " ++
      "v,verbose z,zero u") {} Shredding.Settings.step self arguments fun s operands => do
    if operands.isEmpty then misuse self "missing file operand"
    else forEach operands (Shredding.writeOver self s)

/-! ## What is missing -/

/-- Makes a pipe with a name; devices are not made for anybody. -/
def makeSpecial : Tool := fun self arguments =>
  withUsage "m,mode= Z --context=?" self arguments fun u => do
    match ← queueMode u with
    | .error text => fail self text
    | .ok mode =>
        let named := u.operands.length
        let queue := named = 0 || (u.operands[1]?.any fun word => word.startsWith "p")
        let wanted := if queue then 2 else 4
        let more (text : String) (hinted : Bool) (remark : String) : Run Unit := do
          say self text
          if hinted then tell (remark ++ "\n")
          hint self
          finish 1
        match u.operands with
        | [] => misuse self "missing operand"
        | path :: rest =>
            if named < wanted then
              more ("missing operand after " ++ quoted ((path :: rest).getLastD "")) (named = 2)
                "Special files require major and minor device numbers."
            else if let some extra := u.operands[wanted]? then
              more ("extra operand " ++ quoted extra) (wanted = 2 && named = 4)
                "Fifos do not have major and minor device numbers."
            else
              match rest with
              | [_] =>
                  match ← makeNode path fun _ => { content := .queue, mode } with
                  | none => finish 0
                  | some fault => fail self (shown path ++ ": " ++ fault.words)
              | kind :: numbers =>
                  if ["b", "c", "u"].all fun letter => !kind.startsWith letter then
                    misuse self ("invalid device type " ++ quoted kind)
                  else
                    let wrong := (["major", "minor"].zip numbers).find? fun pair =>
                      (amountInBase 0 "" pair.2 (Nat.pow 2 32)).toOption.isNone
                    match wrong with
                    | some (which, number) =>
                        fail self ("invalid " ++ which ++ " device number " ++ quoted number)
                    | none =>
                        let taken := (← lookAt path false).toOption.isSome
                        fail self (shown path ++ ": " ++
                          (if taken then FileFault.alreadyThere.words
                            else FileFault.notPermitted.words))
              | [] => finish 1

namespace Terminal

/-- The settings of a terminal that need a value. -/
def valued : List String :=
  [ "intr", "quit", "erase", "kill", "eof", "eol", "eol2", "swtch", "start", "stop", "susp",
    "rprnt", "werase", "lnext", "discard", "flush", "min", "time", "line", "ispeed", "ospeed",
    "rows", "cols", "columns" ]

/-- The settings of a terminal that are on or off. -/
def switches : List String :=
  [ "parenb", "parodd", "cmspar", "cs5", "cs6", "cs7", "cs8", "hupcl", "hup", "cstopb", "cread",
    "clocal", "crtscts", "ignbrk", "brkint", "ignpar", "parmrk", "inpck", "istrip", "inlcr",
    "igncr", "icrnl", "ixon", "ixoff", "tandem", "iuclc", "ixany", "imaxbel", "iutf8", "opost",
    "olcuc", "ocrnl", "onlcr", "onocr", "onlret", "ofill", "ofdel", "nl0", "nl1", "cr0", "cr1",
    "cr2", "cr3", "tab0", "tab1", "tab2", "tab3", "bs0", "bs1", "vt0", "vt1", "ff0", "ff1", "isig",
    "icanon", "iexten", "echo", "echoe", "crterase", "echok", "echonl", "noflsh", "xcase",
    "tostop", "echoprt", "prterase", "echoctl", "ctlecho", "echoke", "crtkill", "extproc", "evenp",
    "parity", "oddp", "nl", "ek", "sane", "cooked", "raw", "pass8", "litout", "cbreak", "decctlq",
    "tabs", "lcase", "LCASE", "crt", "dec", "size", "speed", "drain" ]

/-- The first mistake in settings. -/
def mistake? : List String → Option String
  | [] => none
  | word :: rest =>
      let plain := if word.startsWith "-" then (word.drop 1).toString else word
      if valued.contains word then
        match rest with
        | [] => some ("missing argument to " ++ quoted word)
        | _ :: rest => mistake? rest
      else if switches.contains plain || (word ≠ "" && word.all Char.isDigit) then mistake? rest
      else some ("invalid argument " ++ quoted word)

end Terminal

/-- Tells or changes the settings of the terminal, if there were one. -/
def setTerminal : Tool := fun self arguments => do
  let device := match arguments with
    | "-F" :: path :: _ => some path
    | word :: _ => if word.startsWith "-F" then some (word.drop 2).toString else none
    | [] => none
  let words := match arguments with
    | "-F" :: _ :: rest => rest
    | word :: rest => if word.startsWith "-F" then rest else arguments
    | [] => []
  let style (word : String) : Bool := ["-a", "-g", "--all", "--save", "-ag", "-ga"].contains word
  let settings := words.filter fun word => !style word
  let all := words.any fun word => word = "-a" || word = "--all" || (style word && word.length = 3)
  let saved := words.any fun word =>
    word = "-g" || word = "--save" || (style word && word.length = 3)
  if let some text := Terminal.mistake? settings then return ← misuse self text
  if all && saved then
    say self "the options for verbose and stty-readable output styles are"
    tell "mutually exclusive\n"
    finish 1
  else if (all || saved) && !settings.isEmpty then
    fail self "when specifying an output style, modes may not be set"
  else
    match device with
    | none => fail self "'standard input': Inappropriate ioctl for device"
    | some path =>
        match ← openPath path .input with
        | .ok _ => fail self (shown path ++ ": Inappropriate ioctl for device")
        | .error fault => fail self (shown path ++ ": " ++ fault.words)

/-- Changes the labels of files. -/
def changeLabel : Tool := fun self arguments =>
  withUsage ("H L P R,recursive --dereference h,no-dereference f,silent,quiet u,user= r,role= " ++
      "t,type= l,range= --reference= v,verbose --preserve-root --no-preserve-root") self arguments
    fun u => do
      let parts := "urtl".toList.any u.has
      let wanted := if parts || u.hasName "reference" then 1 else 2
      if u.operands.length < wanted then
        match u.operands.getLast? with
        | none => misuse self "missing operand"
        | some last => misuse self ("missing operand after " ++ quoted last)
      else
        forEach (u.operands.drop (wanted - 1)) fun path => do
          match ← lookAt path with
          | .ok _ =>
              say self ("failed to get security context of " ++ quoted path ++
                ": Operation not supported")
              return false
          | .error fault =>
              say self ("cannot access " ++ quoted path ++ ": " ++ fault.words)
              return false

/-- Runs a program under a label, if there were labels. -/
def runLabelled : Tool := fun self arguments =>
  withUsage "+ c,compute t,type= u,user= r,role= l,range=" self arguments (fun u => do
    let parts := "cturl".toList.any u.has
    let words := if parts then u.operands else u.operands.drop 1
    if u.operands.isEmpty then
      fail self "failed to get current context: Invalid argument" 125
    else if words.isEmpty then misuse self "no command specified" 125
    else fail self (self ++ " may be used only on a SELinux kernel") 125) 125

/-- Tells how full the storage is that files are in. -/
def freeSpace : Tool := fun self arguments =>
  withUsage ("a,all B,block-size= i,inodes h,human-readable H,si l,local --output=? " ++
      "P,portability T,print-type --sync --no-sync --total t,type= x,exclude-type= k v m") self
    arguments fun u => do
      forEach u.operands fun path => do
        match ← lookAt path with
        | .ok _ => return true
        | .error fault =>
            say self (shown path ++ ": " ++ fault.words)
            return false

/-- Tells how the kinds of files are coloured. -/
def listColours : Tool := fun self arguments =>
  withUsage "b,sh,bourne-shell c,csh,c-shell p,print-database --print-ls-colors" self arguments
    fun u => do
      match u.operands, u.has 'p' with
      | word :: _, true =>
          say self ("extra operand " ++ quoted word)
          tell "file operands cannot be combined with --print-database (-p)\n"
          hint self
          finish 1
      | _ :: extra :: _, false => misuse self ("extra operand " ++ quoted extra)
      | operands, _ => do
          if !(u.has 'b' || u.has 'c' || u.has 'p') && (← exportedValue? "SHELL").isNone then
            fail self "no SHELL environment variable, and no shell type option given"
          else
            match operands with
            | path :: _ =>
                match ← readOperand path .whole with
                | .ok _ => finish 0
                | .error fault => fail self (shown path ++ ": " ++ fault.words)
            | [] => finish 0

end WasmBinary.Machine.Script.Tool
