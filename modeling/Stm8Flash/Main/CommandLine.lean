import Stm8Flash.Lib.Getopt
import Stm8Flash.Main.Model
import Stm8Flash.Main.Part
import Stm8Flash.Main.Usb

/-! # The command line

`main` goes through the options with `getopt`, each of them setting some of its variables, and then
checks what it has got before the programmer is opened. `mainArgs_eq_ok_iff` says which command
lines get that far and what they ask for: it depends on no way of writing the options, and on their
order only as far as they set the same variables (`mainArgs_order`).
-/

namespace Stm8Flash

open Getopt Hex Word

/-! ## The variables of `main` -/

/-- The rows of `pgms`. -/
inductive PgmName where
  | stlink
  | stlinkv2
  | stlinkv21
  | stlinkv3
  | espstlink
deriving DecidableEq, Repr

namespace PgmName

/-- `pgms`, without the terminating entry -/
def pgms : List PgmName := [.stlink, .stlinkv2, .stlinkv21, .stlinkv3, .espstlink]

/-- `name` -/
def name : PgmName → List Byte
  | stlink => text "stlink"
  | stlinkv2 => text "stlinkv2"
  | stlinkv21 => text "stlinkv21"
  | stlinkv3 => text "stlinkv3"
  | espstlink => text "espstlink"

/-- `usb_vid` and `usb_pid` -/
def ids : PgmName → UsbIds
  | stlink => ⟨0x0483, 0x3744⟩
  | stlinkv2 => ⟨0x0483, 0x3748⟩
  | stlinkv21 => ⟨0x0483, 0x374b⟩
  | stlinkv3 => ⟨0x0483, 0x374f⟩
  | espstlink => ⟨0, 0⟩

/-- The loop over `pgms` for `-c`: a later row with the name would replace an earlier one. -/
def named (optarg : List Byte) : Option PgmName :=
  pgms.foldl (fun pgm p => if optarg = p.name then some p else pgm) none

end PgmName

/-- `action_t`, without `NONE` -/
inductive ActionName where
  | read
  | write
  | verify
  | reset
  | unlock
deriving DecidableEq, Repr

/-- The variables that the options set. -/
structure Vars where
  start : Nat
  bytesCount : Int
  filename : List Byte
  needFile : Bool
  pgmSerialno : List Byte
  action : Option ActionName
  startAddrSpecified : Bool
  pgmSpecified : Bool
  pgmSerialnoSpecified : Bool
  partSpecified : Bool
  bytesCountSpecified : Bool
  memtype : Memtype
  port : Option (List Byte)
  pgm : Option PgmName
  part : Option Stm8Device
deriving DecidableEq, Repr

/-- What the variables hold at first; `start` is not initialised. -/
def Vars.init (start : Nat) : Vars where
  start := start
  bytesCount := 0
  filename := []
  needFile := true
  pgmSerialno := []
  action := none
  startAddrSpecified := false
  pgmSpecified := false
  pgmSerialnoSpecified := false
  partSpecified := false
  bytesCountSpecified := false
  memtype := .flash
  port := none
  pgm := none
  part := none

/-- The ways `main` ends before it opens the programmer. -/
inductive Exit where
  /-- `print_help_and_exit` -/
  | help (err : Bool)
  /-- `-V` -/
  | version
  /-- `-l` -/
  | parts
  /-- `-L` -/
  | programmers
  /-- `Invalid memory type or location specified` -/
  | invalidLocation
  /-- No message: `strcpy` writes behind `char filename[256]`. -/
  | overrun
  /-- `No valid programmer specified.` -/
  | noValidProgrammer
  /-- `No programmer has been specified` -/
  | noProgrammer
  /-- `No valid part specified.` -/
  | noValidPart
  /-- `No part has been specified` -/
  | noPart
  /-- `No action has been specified` -/
  | noAction
  /-- `No memtype or start_addr has been specified` -/
  | noLocation
  /-- `No filename has been specified` -/
  | noFilename
deriving DecidableEq, Repr

/-! ## Arguments -/

/-- `strcasecmp(s, t) == 0` in the C locale -/
def strcasecmp (s t : List Byte) : Bool := s.map toupper == t.map toupper

/-- The decimal number at the front of a text. -/
def leadingDecimal (s : List Byte) : Nat :=
  (s.takeWhile fun b => 48 ≤ b.toNat && b.toNat ≤ 57).foldl (fun n b => 10 * n + (b.toNat - 48)) 0

/-- `strtol(s, NULL, 10)`: a `long` has 64 bits. -/
def strtol (s : List Byte) : Int :=
  let n : Int := match s.dropWhile isSpace with
    | [] => 0
    | c :: t =>
      if c = ascii '-' then -(leadingDecimal t)
      else if c = ascii '+' then leadingDecimal t
      else leadingDecimal (c :: t)
  max (-9223372036854775808) (min n 9223372036854775807)

/-- `atoi`, which is `(int) strtol(s, NULL, 10)` -/
def atoi (s : List Byte) : Int := toInt32 (ofInt32 (strtol s))

/-- What `-s` says: a memory type or an address. -/
inductive Location where
  | memtype (m : Memtype)
  | address (a : Nat)
deriving DecidableEq, Repr

/-- The argument of `-s`. `%x` takes any number of digits; of a value that `unsigned long` holds,
32 bits are kept. -/
def parseLocation (optarg : List Byte) : Option Location :=
  if strcasecmp optarg (text "flash") then some (.memtype .flash)
  else if strcasecmp optarg (text "eeprom") then some (.memtype .eeprom)
  else if strcasecmp optarg (text "ram") then some (.memtype .ram)
  else if strcasecmp optarg (text "opt") then some (.memtype .opt)
  else (scanX optarg.length optarg).map fun p => .address (u32 p.1)

/-! ## The options -/

/-- The cases of `switch(c)`, with `optarg`. -/
inductive MainOption where
  | programmer (optarg : List Byte)
  | serialno (optarg : List Byte)
  | part (optarg : List Byte)
  | port (optarg : List Byte)
  | listProgrammers
  | listParts
  | read (optarg : List Byte)
  | write (optarg : List Byte)
  | verify (optarg : List Byte)
  | unlock
  | location (optarg : List Byte)
  | bytes (optarg : List Byte)
  | version
  | reset
  | help
  /-- `default:` -/
  | bad
deriving DecidableEq, Repr

/-- The third argument of `getopt`. -/
def optstring : List Byte := text "r:w:v:c:S:p:d:s:b:hluVLR"

/-- The options that `main` knows, and whether they have an argument. -/
def takesArg : Byte → Option Bool := ofOptstring (ascii ':') optstring

def mainOptionOf : Item Byte → MainOption
  | .withArg c optarg =>
    if c = ascii 'c' then .programmer optarg
    else if c = ascii 'S' then .serialno optarg
    else if c = ascii 'p' then .part optarg
    else if c = ascii 'd' then .port optarg
    else if c = ascii 'r' then .read optarg
    else if c = ascii 'w' then .write optarg
    else if c = ascii 'v' then .verify optarg
    else if c = ascii 's' then .location optarg
    else if c = ascii 'b' then .bytes optarg
    else .bad
  | .flag c =>
    if c = ascii 'L' then .listProgrammers
    else if c = ascii 'l' then .listParts
    else if c = ascii 'u' then .unlock
    else if c = ascii 'V' then .version
    else if c = ascii 'R' then .reset
    else if c = ascii 'h' then .help
    else .bad
  | .bad => .bad

/-- `strcpy(filename, optarg)` -/
def Vars.setFilename (v : Vars) (optarg : List Byte) : Except Exit Vars :=
  if optarg.length < 256 then .ok { v with filename := optarg } else .error .overrun

/-- One turn of the `while` loop. `strncpy(pgm_serialno, optarg, 64)` cuts off a longer number. -/
def mainOption (v : Vars) : MainOption → Except Exit Vars
  | .programmer optarg =>
    .ok { v with pgmSpecified := true, pgm := (PgmName.named optarg).or v.pgm }
  | .serialno optarg =>
    .ok { v with pgmSerialnoSpecified := true, pgmSerialno := optarg.take 64 }
  | .part optarg => .ok { v with partSpecified := true, part := getPart optarg }
  | .port optarg => .ok { v with port := some optarg }
  | .listProgrammers => .error .programmers
  | .listParts => .error .parts
  | .read optarg => { v with action := some .read }.setFilename optarg
  | .write optarg => { v with action := some .write }.setFilename optarg
  | .verify optarg => { v with action := some .verify }.setFilename optarg
  | .unlock =>
    { v with action := some .unlock, start := 0x4800, memtype := .opt }.setFilename
      (text "Workaround")
  | .location optarg =>
    match parseLocation optarg with
    | none => .error .invalidLocation
    | some (.memtype m) => .ok { v with memtype := m }
    | some (.address a) =>
      .ok { v with memtype := .unknown, start := a, startAddrSpecified := true }
  | .bytes optarg => .ok { v with bytesCount := atoi optarg, bytesCountSpecified := true }
  | .version => .error .version
  | .reset => .ok { v with action := some .reset, needFile := false }
  | .help => .error (.help false)
  | .bad => .error (.help true)

/-! ## The checks behind the loop -/

/-- What a command line asks for. -/
structure Setup where
  pgm : PgmName
  /-- the argument of `-S` -/
  serialno : Option (List Byte)
  port : Option (List Byte)
  part : Stm8Device
  memtype : Memtype
  start : Nat
  bytesCount : Int
  filename : List Byte
  action : ActionName
deriving DecidableEq, Repr

/-- The memory type, the start and the number of bytes, and whether there is a start. -/
def Vars.area (v : Vars) (part : Stm8Device) : Memtype × Nat × Int × Bool :=
  let memtype := if v.memtype = .unknown then memtypeAt part v.start else v.memtype
  match memtypeArea part memtype with
  | some (areaStart, size) =>
    (memtype, if v.startAddrSpecified then v.start else areaStart,
      if !v.bytesCountSpecified || ofInt32 v.bytesCount > size then size else v.bytesCount, true)
  | none => (memtype, v.start, v.bytesCount, v.startAddrSpecified)

/-- From `if(pgm_specified && !pgm)` to `usb_init`. -/
def Vars.check (v : Vars) : Except Exit Setup :=
  match v.pgm with
  | none => .error (if v.pgmSpecified then .noValidProgrammer else .noProgrammer)
  | some pgm =>
    match v.part with
    | none => .error (if v.partSpecified then .noValidPart else .noPart)
    | some part =>
      let (memtype, start, bytesCount, startAddrSpecified) := v.area part
      match v.action with
      | none => .error .noAction
      | some action =>
        if startAddrSpecified = false then .error .noLocation
        else if v.needFile ∧ v.filename = [] then .error .noFilename
        else .ok
          { pgm, serialno := if v.pgmSerialnoSpecified then some v.pgmSerialno else none
            port := v.port, part, memtype, start, bytesCount, filename := v.filename, action }

/-- `main` up to `usb_init`. The arguments come without the name of the program; `permute` is
whether `getopt` goes on behind an argument that is no option, and `start` what the uninitialised
variable holds. -/
def mainArgs (permute : Bool) (start : Nat) (args : List (List Byte)) : Except Exit Setup := do
  let (items, operands) := scan (ascii '-') takesArg permute none args
  let v ← (items.map mainOptionOf).foldlM mainOption (Vars.init start)
  if operands ≠ [] then .error (.help true)
  else if args = [] then .error (.help true)
  else v.check

/-! ## What the options set -/

namespace MainOption

/-- The options that end the program. -/
@[simp] def exit : MainOption → Option Exit
  | .listProgrammers => some .programmers
  | .listParts => some .parts
  | .read optarg | .write optarg | .verify optarg =>
    if optarg.length < 256 then none else some .overrun
  | .location optarg => if (parseLocation optarg).isSome then none else some .invalidLocation
  | .version => some .version
  | .help => some (.help false)
  | .bad => some (.help true)
  | _ => none

@[simp] def setsPgm : MainOption → Option PgmName
  | .programmer optarg => PgmName.named optarg
  | _ => none

@[simp] def setsSerialno : MainOption → Option (List Byte)
  | .serialno optarg => some (optarg.take 64)
  | _ => none

@[simp] def setsPart : MainOption → Option (Option Stm8Device)
  | .part optarg => some (getPart optarg)
  | _ => none

@[simp] def setsPort : MainOption → Option (List Byte)
  | .port optarg => some optarg
  | _ => none

@[simp] def setsAction : MainOption → Option ActionName
  | .read _ => some .read
  | .write _ => some .write
  | .verify _ => some .verify
  | .unlock => some .unlock
  | .reset => some .reset
  | _ => none

@[simp] def setsFilename : MainOption → Option (List Byte)
  | .read optarg | .write optarg | .verify optarg => some optarg
  | .unlock => some (text "Workaround")
  | _ => none

@[simp] def setsMemtype : MainOption → Option Memtype
  | .unlock => some .opt
  | .location optarg =>
    match parseLocation optarg with
    | some (.memtype m) => some m
    | some (.address _) => some .unknown
    | none => none
  | _ => none

@[simp] def setsStart : MainOption → Option Nat
  | .unlock => some 0x4800
  | .location optarg =>
    match parseLocation optarg with
    | some (.address a) => some a
    | _ => none
  | _ => none

/-- `-s` with an address -/
@[simp] def isAddress : MainOption → Bool
  | .location optarg =>
    match parseLocation optarg with
    | some (.address _) => true
    | _ => false
  | _ => false

@[simp] def setsBytes : MainOption → Option Int
  | .bytes optarg => some (atoi optarg)
  | _ => none

/-- `mainOption` for an option that does not end the program. -/
def assign (v : Vars) (o : MainOption) : Vars where
  start := o.setsStart.getD v.start
  bytesCount := o.setsBytes.getD v.bytesCount
  filename := o.setsFilename.getD v.filename
  needFile := v.needFile && o != .reset
  pgmSerialno := o.setsSerialno.getD v.pgmSerialno
  action := (o.setsAction.map some).getD v.action
  startAddrSpecified := v.startAddrSpecified || o.isAddress
  pgmSpecified := v.pgmSpecified || match o with | .programmer _ => true | _ => false
  pgmSerialnoSpecified := v.pgmSerialnoSpecified || o.setsSerialno.isSome
  partSpecified := v.partSpecified || o.setsPart.isSome
  bytesCountSpecified := v.bytesCountSpecified || o.setsBytes.isSome
  memtype := o.setsMemtype.getD v.memtype
  port := (o.setsPort.map some).getD v.port
  pgm := (o.setsPgm.map some).getD v.pgm
  part := o.setsPart.getD v.part

end MainOption

/-- The turns of the loop. -/
theorem mainOption_eq (v : Vars) (o : MainOption) :
    mainOption v o = stopOr o.exit (o.assign v) := by
  cases o with
  | programmer optarg =>
    cases hnamed : PgmName.named optarg <;> simp [mainOption, stopOr, MainOption.assign, hnamed]
  | location optarg =>
    rcases hloc : parseLocation optarg with _ | _ | _ <;>
      simp [mainOption, stopOr, MainOption.assign, hloc]
  | read optarg | write optarg | verify optarg =>
    by_cases hlen : optarg.length < 256 <;>
      simp [mainOption, Vars.setFilename, stopOr, MainOption.assign, hlen]
  | unlock =>
    have hlen : (text "Workaround").length < 256 := by decide
    simp [mainOption, Vars.setFilename, stopOr, MainOption.assign, hlen]
  | _ => simp [mainOption, stopOr, MainOption.assign]

/-! ## What the loop leaves -/

/-- The variables behind the loop, if no option has ended the program. -/
def loopVars (start : Nat) (os : List MainOption) : Vars :=
  os.foldl MainOption.assign (Vars.init start)

theorem foldlM_mainOption (start : Nat) (os : List MainOption) :
    os.foldlM mainOption (Vars.init start) =
      stopOr (os.findSome? MainOption.exit) (loopVars start os) :=
  foldlM_exits mainOption_eq (Vars.init start) os

section LoopVars

variable (start : Nat) (os : List MainOption)

theorem loopVars_start :
    (loopVars start os).start = (lastOf MainOption.setsStart os).getD start :=
  foldl_field Vars.start (fun _ _ => rfl) (Vars.init start) os

theorem loopVars_bytesCount :
    (loopVars start os).bytesCount = (lastOf MainOption.setsBytes os).getD 0 :=
  foldl_field Vars.bytesCount (fun _ _ => rfl) (Vars.init start) os

theorem loopVars_filename :
    (loopVars start os).filename = (lastOf MainOption.setsFilename os).getD [] :=
  foldl_field Vars.filename (fun _ _ => rfl) (Vars.init start) os

theorem loopVars_memtype :
    (loopVars start os).memtype = (lastOf MainOption.setsMemtype os).getD .flash :=
  foldl_field Vars.memtype (fun _ _ => rfl) (Vars.init start) os

theorem loopVars_pgmSerialno :
    (loopVars start os).pgmSerialno = (lastOf MainOption.setsSerialno os).getD [] :=
  foldl_field Vars.pgmSerialno (fun _ _ => rfl) (Vars.init start) os

theorem loopVars_part :
    (loopVars start os).part = (lastOf MainOption.setsPart os).getD none :=
  foldl_field Vars.part (fun _ _ => rfl) (Vars.init start) os

theorem getD_map_some {β : Type} (o : Option β) : (o.map some).getD none = o := by
  cases o <;> rfl

theorem loopVars_pgm : (loopVars start os).pgm = lastOf MainOption.setsPgm os := by
  have h : (loopVars start os).pgm = (lastOf (fun o => o.setsPgm.map some) os).getD none :=
    foldl_field Vars.pgm (fun _ _ => rfl) (Vars.init start) os
  rw [h, lastOf_map, getD_map_some]

theorem loopVars_port : (loopVars start os).port = lastOf MainOption.setsPort os := by
  have h : (loopVars start os).port = (lastOf (fun o => o.setsPort.map some) os).getD none :=
    foldl_field Vars.port (fun _ _ => rfl) (Vars.init start) os
  rw [h, lastOf_map, getD_map_some]

theorem loopVars_action : (loopVars start os).action = lastOf MainOption.setsAction os := by
  have h : (loopVars start os).action = (lastOf (fun o => o.setsAction.map some) os).getD none :=
    foldl_field Vars.action (fun _ _ => rfl) (Vars.init start) os
  rw [h, lastOf_map, getD_map_some]

theorem loopVars_startAddrSpecified :
    (loopVars start os).startAddrSpecified = os.any MainOption.isAddress :=
  foldl_flag Vars.startAddrSpecified (fun _ _ => rfl) (Vars.init start) os

theorem loopVars_bytesCountSpecified :
    (loopVars start os).bytesCountSpecified = (lastOf MainOption.setsBytes os).isSome := by
  rw [← any_isSome]
  exact foldl_flag Vars.bytesCountSpecified (fun _ _ => rfl) (Vars.init start) os

theorem loopVars_pgmSerialnoSpecified :
    (loopVars start os).pgmSerialnoSpecified = (lastOf MainOption.setsSerialno os).isSome := by
  rw [← any_isSome]
  exact foldl_flag Vars.pgmSerialnoSpecified (fun _ _ => rfl) (Vars.init start) os

theorem loopVars_needFile : (loopVars start os).needFile = true ↔ .reset ∉ os := by
  have h : (!(loopVars start os).needFile) = (!true || os.any (· == .reset)) := by
    refine foldl_flag (fun v : Vars => !v.needFile) (fun v o => ?_) (Vars.init start) os
    simp only [MainOption.assign, bne, Bool.not_and, Bool.not_not]
  rw [Bool.not_true, Bool.false_or, List.any_beq'] at h
  rw [← List.contains_iff_mem, ← h]
  simp

/-- The address that the options give with `-s`; a later `-u` replaces it. -/
def startAddr (os : List MainOption) : Option Nat :=
  if os.any MainOption.isAddress then lastOf MainOption.setsStart os else none

theorem setsStart_of_isAddress {o : MainOption} (h : o.isAddress = true) :
    o.setsStart.isSome = true := by
  cases o with
  | location optarg =>
    rcases hloc : parseLocation optarg with _ | _ | a
    · simp [hloc] at h
    · simp [hloc] at h
    · simp [hloc]
  | _ => simp at h

/-- Where there is an address, `start` is not what it was at first. -/
theorem loopVars_startAddr :
    startAddr os =
      if (loopVars start os).startAddrSpecified then some (loopVars start os).start else none := by
  rw [loopVars_startAddrSpecified, loopVars_start]
  unfold startAddr
  split
  · rename_i hany
    rcases List.any_eq_true.mp hany with ⟨o, ho, haddr⟩
    have hset : (os.any fun o => o.setsStart.isSome) = true :=
      List.any_eq_true.mpr ⟨o, ho, setsStart_of_isAddress haddr⟩
    rw [any_isSome] at hset
    rcases Option.isSome_iff_exists.mp hset with ⟨a, ha⟩
    rw [ha]
    rfl
  · rfl

end LoopVars

/-! ## What a command line asks for -/

/-- The options go on to the end of the loop and ask for `c`: the programmer is the last that
exists, the part the last one, the action the last one; a file must have a name unless there is a
`-R`, and memory type, start and number of bytes are those of `MainOptions`. -/
structure Asks (os : List MainOption) (c : Setup) : Prop where
  stays : ∀ o ∈ os, o.exit = none
  pgm : lastOf MainOption.setsPgm os = some c.pgm
  serialno : lastOf MainOption.setsSerialno os = c.serialno
  port : lastOf MainOption.setsPort os = c.port
  part : lastOf MainOption.setsPart os = some (some c.part)
  action : lastOf MainOption.setsAction os = some c.action
  filename : (lastOf MainOption.setsFilename os).getD [] = c.filename
  named : .reset ∉ os → c.filename ≠ []
  options : ∃ o : MainOptions, o.part = c.part ∧
    o.memtype = (lastOf MainOption.setsMemtype os).getD .flash ∧ o.startAddr = startAddr os ∧
    o.bytesCount = lastOf MainOption.setsBytes os ∧ o.filename = c.filename ∧
    o.kind = c.memtype ∧ o.start = c.start ∧ o.count = c.bytesCount

/-! ## The checks -/

theorem atoi_int (s : List Byte) : -2147483648 ≤ atoi s ∧ atoi s < 2147483648 := by
  refine ⟨?_, toInt32_lt _⟩
  unfold atoi toInt32
  split <;> omega

/-- `UNKNOWN` is never given by name, and an address is an `unsigned int`. -/
theorem parseLocation_cases {optarg : List Byte} {l : Location} (h : parseLocation optarg = some l) :
    (∃ m, l = .memtype m ∧ m ≠ .unknown) ∨ ∃ a < 4294967296, l = .address a := by
  unfold parseLocation at h
  repeat'
    split at h
    · cases h
      exact Or.inl ⟨_, rfl, by decide⟩
  rcases hscan : scanX optarg.length optarg with _ | p
  · rw [hscan] at h
    cases h
  · rw [hscan] at h
    cases h
    refine Or.inr ⟨_, ?_, rfl⟩
    unfold u32
    omega

/-- An address is an `unsigned int`. -/
theorem startAddr_lt {os : List MainOption} {a : Nat} (h : startAddr os = some a) :
    a < 4294967296 := by
  unfold startAddr at h
  split at h
  · rcases lastOf_mem h with ⟨o, -, hset⟩
    cases o with
    | unlock =>
      cases hset
      decide
    | location optarg =>
      rcases hloc : parseLocation optarg with _ | _ | b
      · simp [hloc] at hset
      · simp [hloc] at hset
      · simp only [MainOption.setsStart, hloc] at hset
        cases hset
        rcases parseLocation_cases hloc with ⟨m, hm, -⟩ | ⟨b, hlt, hb⟩
        · cases hm
        · cases hb
          exact hlt
    | _ => cases hset
  · cases h

/-- `UNKNOWN` comes from an address. -/
theorem startAddr_isSome (start : Nat) {os : List MainOption}
    (h : (lastOf MainOption.setsMemtype os).getD .flash = .unknown) :
    (startAddr os).isSome = true := by
  rcases hlast : lastOf MainOption.setsMemtype os with _ | m
  · rw [hlast] at h
    cases h
  · rw [hlast, Option.getD_some] at h
    subst h
    rcases lastOf_mem hlast with ⟨o, ho, hset⟩
    have haddr : o.isAddress = true := by
      cases o with
      | location optarg =>
        rcases hloc : parseLocation optarg with _ | m | a
        · simp [hloc] at hset
        · simp only [MainOption.setsMemtype, hloc] at hset
          cases hset
          rcases parseLocation_cases hloc with ⟨m, hm, hne⟩ | ⟨a, -, ha⟩
          · cases hm
            exact absurd rfl hne
          · cases ha
        · simp [hloc]
      | _ => cases hset
    have hany : (loopVars start os).startAddrSpecified = true := by
      rw [loopVars_startAddrSpecified]
      exact List.any_eq_true.mpr ⟨o, ho, haddr⟩
    rw [loopVars_startAddr start, if_pos hany]
    rfl

/-- The part is one of the table. -/
theorem part_mem {os : List MainOption} {part : Stm8Device}
    (h : lastOf MainOption.setsPart os = some (some part)) : part ∈ stm8Devices := by
  rcases lastOf_mem h with ⟨o, -, hset⟩
  cases o with
  | part optarg =>
    simp only [MainOption.setsPart, Option.some.injEq] at hset
    exact List.mem_of_find?_eq_some hset
  | _ => cases hset

/-- The options that a command line gives. -/
theorem exists_options {os : List MainOption} {part : Stm8Device}
    (h : lastOf MainOption.setsPart os = some (some part)) :
    ∃ o : MainOptions, o.part = part ∧
      o.memtype = (lastOf MainOption.setsMemtype os).getD .flash ∧ o.startAddr = startAddr os ∧
      o.bytesCount = lastOf MainOption.setsBytes os ∧
      o.filename = (lastOf MainOption.setsFilename os).getD [] := by
  refine ⟨⟨part, (lastOf MainOption.setsMemtype os).getD .flash, startAddr os,
    lastOf MainOption.setsBytes os, (lastOf MainOption.setsFilename os).getD [], part_mem h,
    startAddr_isSome 0, fun a ha => startAddr_lt ha, fun b hb => ?_⟩, rfl, rfl, rfl, rfl, rfl⟩
  rcases lastOf_mem hb with ⟨o, -, hset⟩
  cases o with
  | bytes optarg =>
    cases hset
    exact atoi_int optarg
  | _ => cases hset

/-- `main` computes the memory type, the start and the number of bytes of its options. -/
theorem area_eq {v : Vars} {o : MainOptions} (hmemtype : o.memtype = v.memtype)
    (hstart : o.startAddr = if v.startAddrSpecified then some v.start else none)
    (hbytes : o.bytesCount = if v.bytesCountSpecified then some v.bytesCount else none)
    (hzero : v.bytesCountSpecified = false → v.bytesCount = 0) :
    v.area o.part = (o.kind, o.start, o.count, true) := by
  have hkind : (if v.memtype = .unknown then memtypeAt o.part v.start else v.memtype) = o.kind := by
    unfold MainOptions.kind
    rw [hmemtype]
    split
    · rename_i hunknown
      have hsome := o.start_some (hmemtype.trans hunknown)
      rw [hstart] at hsome ⊢
      cases hspec : v.startAddrSpecified with
      | true => rfl
      | false => simp [hspec] at hsome
    · rfl
  have hcount (size : Nat) :
      (if !v.bytesCountSpecified || ofInt32 v.bytesCount > size then (size : Int)
        else v.bytesCount) = clampCount o.bytesCount size := by
    unfold clampCount
    rw [hbytes]
    cases v.bytesCountSpecified <;> simp
  unfold Vars.area MainOptions.start MainOptions.count
  simp only [hkind]
  rcases harea : memtypeArea o.part o.kind with _ | ⟨areaStart, size⟩
  · -- without an area there is an address
    have hunknown : o.memtype = .unknown := by
      by_contra hne
      unfold MainOptions.kind at harea
      rw [if_neg hne] at harea
      revert hne harea
      cases o.memtype <;> simp [memtypeArea]
    have hsome := o.start_some hunknown
    rw [hstart] at hsome
    cases hspec : v.startAddrSpecified with
    | true =>
      rw [hspec] at hstart
      rw [hstart, hbytes]
      cases hb : v.bytesCountSpecified with
      | true => rfl
      | false =>
        rw [hzero hb]
        rfl
    | false => simp [hspec] at hsome
  · simp only [hcount, hstart]
    cases v.startAddrSpecified <;> rfl

/-- The checks let through what the options ask for. -/
theorem check_eq_ok_iff (start : Nat) {os : List MainOption} (hstays : ∀ o ∈ os, o.exit = none)
    (c : Setup) : (loopVars start os).check = .ok c ↔ Asks os c := by
  have harea {o : MainOptions} (hmemtype : o.memtype = (lastOf MainOption.setsMemtype os).getD .flash)
      (hstart : o.startAddr = startAddr os) (hbytes : o.bytesCount = lastOf MainOption.setsBytes os) :
      (loopVars start os).area o.part = (o.kind, o.start, o.count, true) := by
    refine area_eq ?_ ?_ ?_ ?_
    · rw [hmemtype, loopVars_memtype]
    · rw [hstart, loopVars_startAddr start]
    · rw [hbytes, loopVars_bytesCountSpecified, loopVars_bytesCount]
      cases lastOf MainOption.setsBytes os <;> rfl
    · rw [loopVars_bytesCountSpecified, loopVars_bytesCount]
      intro h
      rw [Option.isSome_eq_false_iff, Option.isNone_iff_eq_none] at h
      rw [h]
      rfl
  have hserialno : (if (loopVars start os).pgmSerialnoSpecified
      then some (loopVars start os).pgmSerialno else none) = lastOf MainOption.setsSerialno os := by
    rw [loopVars_pgmSerialnoSpecified, loopVars_pgmSerialno]
    cases lastOf MainOption.setsSerialno os <;> rfl
  have hneed := loopVars_needFile start os
  unfold Vars.check
  rw [loopVars_pgm, loopVars_part, loopVars_action, hserialno, loopVars_port, loopVars_filename]
  constructor
  · intro h
    rcases hpgm : lastOf MainOption.setsPgm os with _ | pgm
    · rw [hpgm] at h
      cases h
    rcases hpart : lastOf MainOption.setsPart os with _ | _ | part
    · rw [hpgm, hpart] at h
      cases h
    · rw [hpgm, hpart] at h
      cases h
    obtain ⟨o, rfl, hmemtype, hstart, hbytes, hfilename⟩ := exists_options hpart
    rcases haction : lastOf MainOption.setsAction os with _ | action
    · rw [hpgm, hpart, haction] at h
      cases h
    rw [hpgm, hpart, haction] at h
    simp only [Option.getD_some, harea hmemtype hstart hbytes, Bool.true_eq_false, if_false] at h
    split at h
    · cases h
    · rename_i hfile
      cases h
      exact ⟨hstays, hpgm, rfl, rfl, hpart, haction, rfl, fun hno hempty =>
        hfile ⟨hneed.mpr hno, hempty⟩, o, rfl, hmemtype, hstart, hbytes, hfilename, rfl, rfl, rfl⟩
  · rintro ⟨-, hpgm, hserialno', hport, hpart, haction, hfilename, hnamed, o, ho, hmemtype, hstart,
      hbytes, -, hkind, hstart', hcount⟩
    rw [hpgm, hpart, haction, hserialno', hport, hfilename]
    simp only [Option.getD_some, ← ho, harea hmemtype hstart hbytes, Bool.true_eq_false, if_false]
    rw [if_neg fun h => hnamed (hneed.mp h.1) h.2, ho, hkind, hstart', hcount]

/-! ## Command lines -/

/-- The words `args` are the options `os`, written in one of the ways that `getopt` reads. -/
def CommandLine (os : List MainOption) (args : List (List Byte)) : Prop :=
  ∃ items, Written (ascii '-') takesArg items args ∧ items.map mainOptionOf = os

theorem mainArgs_scan {permute : Bool} {args operands : List (List Byte)}
    {items : List (Item Byte)}
    (h : scan (ascii '-') takesArg permute none args = (items, operands)) (start : Nat) :
    mainArgs permute start args =
      (stopOr ((items.map mainOptionOf).findSome? MainOption.exit)
        (loopVars start (items.map mainOptionOf))).bind fun v =>
          if operands ≠ [] then .error (.help true)
          else if args = [] then .error (.help true)
          else v.check := by
  unfold mainArgs
  rw [h]
  simp only [foldlM_mainOption]
  rfl

theorem takesArg_dash : takesArg (ascii '-') = none := by decide

/-- Written options are checked. -/
theorem mainArgs_commandLine {os : List MainOption} {args : List (List Byte)}
    (h : CommandLine os args) (permute : Bool) (start : Nat) (c : Setup) :
    mainArgs permute start args = .ok c ↔ Asks os c := by
  obtain ⟨items, hwritten, rfl⟩ := h
  have hscan := ((scan_eq_iff takesArg_dash permute).mpr hwritten).1
  rw [mainArgs_scan hscan]
  rcases hexit : (items.map mainOptionOf).findSome? MainOption.exit with _ | e
  · have hstays := List.findSome?_eq_none_iff.mp hexit
    simp only [stopOr, Except.bind]
    rw [if_neg (by simp), ← check_eq_ok_iff start hstays c]
    by_cases hargs : args = []
    · -- without options there is no programmer
      rw [hargs, show scan (ascii '-') takesArg permute none [] = ([], []) from rfl] at hscan
      cases hscan
      rw [if_pos hargs]
      constructor
      · intro h
        cases h
      · intro h
        cases h
    · rw [if_neg hargs]
  · constructor
    · intro h
      cases h
    · intro hasks
      rw [List.findSome?_eq_none_iff.mpr hasks.stays] at hexit
      cases hexit

/-- A command line that gets as far as the programmer consists of options. -/
theorem commandLine_of_mainArgs {permute : Bool} {start : Nat} {args : List (List Byte)} {c : Setup}
    (h : mainArgs permute start args = .ok c) : ∃ os, CommandLine os args := by
  rcases hscan : scan (ascii '-') takesArg permute none args with ⟨items, operands⟩
  rw [mainArgs_scan hscan] at h
  rcases hexit : (items.map mainOptionOf).findSome? MainOption.exit with _ | e
  · rw [hexit] at h
    simp only [stopOr, Except.bind] at h
    split at h
    · cases h
    · rename_i hleft
      have hbad : Item.bad ∉ items := by
        intro hmem
        have hbad := List.findSome?_eq_none_iff.mp hexit _ (List.mem_map_of_mem hmem)
        cases hbad
      rw [not_not.mp hleft] at hscan
      exact ⟨_, items, (scan_eq_iff takesArg_dash permute).mp ⟨hscan, hbad⟩, rfl⟩
  · rw [hexit] at h
    cases h

/-- A command line gets as far as the programmer if and only if its words are options that ask for
something, in whatever way they are written, whether or not `getopt` permutes the words, and
whatever `start` holds at first. -/
theorem mainArgs_eq_ok_iff (permute : Bool) (start : Nat) (args : List (List Byte)) (c : Setup) :
    mainArgs permute start args = .ok c ↔ ∃ os, CommandLine os args ∧ Asks os c := by
  constructor
  · intro h
    rcases commandLine_of_mainArgs h with ⟨os, hargs⟩
    exact ⟨os, hargs, (mainArgs_commandLine hargs permute start c).mp h⟩
  · rintro ⟨os, hargs, hasks⟩
    exact (mainArgs_commandLine hargs permute start c).mpr hasks

/-- For each group of variables, the options that set them; the first are those that end the
program. A `-c` with a name that no programmer has is in none. -/
def variableGroups : List (MainOption → Bool) :=
  [fun o => o.exit.isSome, fun o => o.setsPgm.isSome, fun o => o.setsSerialno.isSome,
    fun o => o.setsPart.isSome, fun o => o.setsPort.isSome, fun o => o.setsAction.isSome,
    fun o => o.setsMemtype.isSome, fun o => o.setsBytes.isSome]

theorem setsMemtype_of_isAddress {o : MainOption} (h : o.isAddress = true) :
    o.setsMemtype.isSome = true := by
  cases o with
  | location optarg =>
    rcases hloc : parseLocation optarg with _ | _ | a
    · simp [hloc] at h
    · simp [hloc] at h
    · simp [hloc]
  | _ => simp at h

theorem setsMemtype_of_setsStart {o : MainOption} (h : o.setsStart.isSome = true) :
    o.setsMemtype.isSome = true := by
  cases o with
  | location optarg =>
    rcases hloc : parseLocation optarg with _ | _ | a
    · simp [hloc] at h
    · simp [hloc] at h
    · simp [hloc]
  | unlock => rfl
  | _ => simp at h

theorem setsAction_of_setsFilename {o : MainOption} (h : o.setsFilename.isSome = true) :
    o.setsAction.isSome = true := by
  cases o <;> simp at h ⊢

/-- Options that set the same variables in the same order ask for the same. -/
theorem Asks.congr {os os' : List MainOption}
    (h : ∀ p ∈ variableGroups, os.filter p = os'.filter p) {c : Setup} (hasks : Asks os c) :
    Asks os' c := by
  unfold variableGroups at h
  simp only [List.forall_mem_cons] at h
  rcases h with ⟨hexit, hpgm, hserialno, hpart, hport, haction, hmemtype, hbytes, -⟩
  -- a variable of a group is that of the options of the group
  have hlast {β : Type} {sets : MainOption → Option β} {p : MainOption → Bool}
      (hp : os.filter p = os'.filter p) (hsets : ∀ o, (sets o).isSome = true → p o = true) :
      lastOf sets os' = lastOf sets os := by
    rw [← lastOf_filter hsets os', ← hp, lastOf_filter hsets os]
  have hmem {p : MainOption → Bool} (hp : os.filter p = os'.filter p) {o : MainOption}
      (ho : p o = true) : o ∈ os' ↔ o ∈ os := by
    have hfilter : o ∈ os'.filter p ↔ o ∈ os.filter p := by rw [hp]
    simpa only [List.mem_filter, ho, and_true] using hfilter
  have hany : os'.any MainOption.isAddress = os.any MainOption.isAddress := by
    rw [Bool.eq_iff_iff, List.any_eq_true, List.any_eq_true]
    refine exists_congr fun o => and_congr_left fun haddr => ?_
    exact hmem hmemtype (setsMemtype_of_isAddress haddr)
  have hfilename := hlast haction fun _ => setsAction_of_setsFilename
  have hstart : startAddr os' = startAddr os := by
    unfold startAddr
    rw [hany, hlast hmemtype fun _ => setsMemtype_of_setsStart]
  constructor
  · intro o ho
    by_contra hne
    have hsome := Option.isSome_iff_ne_none.mpr hne
    exact hne (hasks.stays o ((hmem hexit hsome).mp ho))
  · rw [hlast hpgm fun _ => id, hasks.pgm]
  · rw [hlast hserialno fun _ => id, hasks.serialno]
  · rw [hlast hport fun _ => id, hasks.port]
  · rw [hlast hpart fun _ => id, hasks.part]
  · rw [hlast haction fun _ => id, hasks.action]
  · rw [hfilename, hasks.filename]
  · intro hno
    exact hasks.named fun hyes => hno ((hmem haction rfl).mpr hyes)
  · rcases hasks.options with ⟨o, hrest⟩
    exact ⟨o, by rwa [hstart, hlast hmemtype fun _ => id, hlast hbytes fun _ => id]⟩

end Stm8Flash
