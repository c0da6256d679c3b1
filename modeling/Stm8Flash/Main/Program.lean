import Stm8Flash.Main.Request
import Stm8Flash.Main.Session
import Stm8Flash.Stlink.Open
import Stm8Flash.Stlinkv2.Open

/-! # Whole runs of the program

A run of `main`, from its arguments to its exit, on the files and the targets of a desk: the command
line is checked, a programmer is looked for and opened, and the action is carried out on the target
behind it. `programs_frame` says what any number of runs leave alone, whatever the command lines ask
for and whatever fails.
-/

namespace Stm8Flash

open Getopt Hex Word

/-! ## The desk -/

/-- Where a target is: behind a serial port, or behind the device at a place of the list of
libusb. -/
inductive Place where
  | serial (port : List Byte)
  | usb (i : Nat)
deriving DecidableEq, Repr

/-- The files and the targets. -/
structure World where
  file : List Byte → Option (List Byte)
  target : Place → Target

namespace World

def put (w : World) (p : Place) (t : Target) : World :=
  { w with target := Function.update w.target p t }

/-- A file with these contents, or none that is new. -/
def save (w : World) (name : List Byte) (contents : Option (List Byte)) : World :=
  { w with file := if contents.isSome then Function.update w.file name contents else w.file }

@[simp] theorem put_file (w : World) (p : Place) (t : Target) : (w.put p t).file = w.file := rfl

@[simp] theorem save_target (w : World) (name : List Byte) (contents : Option (List Byte)) :
    (w.save name contents).target = w.target := rfl

theorem put_target_self (w : World) (p : Place) (t : Target) : (w.put p t).target p = t := by
  unfold put
  exact Function.update_self p t w.target

theorem put_target_of_ne (w : World) {p q : Place} (h : q ≠ p) (t : Target) :
    (w.put p t).target q = w.target q := by
  unfold put
  exact Function.update_of_ne h t w.target

@[simp] theorem save_none (w : World) (name : List Byte) : w.save name none = w := rfl

theorem save_file_self (w : World) (name contents : List Byte) :
    (w.save name (some contents)).file name = some contents := by
  unfold save
  exact Function.update_self name (some contents) w.file

theorem save_file_of_ne (w : World) {name other : List Byte} (h : other ≠ name)
    (contents : Option (List Byte)) : (w.save name contents).file other = w.file other := by
  cases contents with
  | none => rfl
  | some contents =>
    unfold save
    exact Function.update_of_ne h (some contents) w.file

end World

/-! ## How a run ends -/

/-- How the program ends. -/
inductive ProgramEnd where
  | exit (e : Exit)
  /-- `Couldn't initialize stlink` or `Could not open USB device.` -/
  | usb (e : UsbOutcome)
  /-- No message: an `assert` of `usb_init` does not hold. -/
  | unclaimed
  | stlink (e : SessionEnd StlinkError)
  | stlinkv2 (e : SessionEnd Stlinkv2Error)
  | espstlink (e : SessionEnd EspstlinkError)

/-- What is reported when the program exits with status 0. -/
inductive Report where
  | read (r : ReadReport)
  | verify (verified : Int)
  | write (r : WriteReport)
  | unlock (sent : Int)
  | reset
deriving DecidableEq, Repr

def Ending.report {ε : Type} : Ending ε → Option Report
  | .read r => r.toOption.map .read
  | .verify r => r.toOption.map .verify
  | .write r => r.toOption.map .write
  | .unlock r => r.toOption.map .unlock
  | .reset r => r.toOption.map fun _ => .reset

/-- What a READ stores in its file; `leftover` is what an error leaves there that may come behind
`fopen`. -/
def Ending.saved {ε : Type} (leftover : Option (List Byte)) : Ending ε → Option (List Byte)
  | .read (.ok r) => some r.file
  | .read (.error .malloc) => none
  | .read (.error .readMcu) => none
  | .read (.error .openFile) => none
  | .read (.error _) => leftover
  | _ => none

namespace SessionEnd

variable {ε : Type}

def report : SessionEnd ε → Option Report
  | .action ending => ending.report
  | _ => none

def saved (leftover : Option (List Byte)) : SessionEnd ε → Option (List Byte)
  | .action ending => ending.saved leftover
  | _ => none

end SessionEnd

namespace ProgramEnd

def report : ProgramEnd → Option Report
  | .stlink e => e.report
  | .stlinkv2 e => e.report
  | .espstlink e => e.report
  | _ => none

def saved (leftover : Option (List Byte)) : ProgramEnd → Option (List Byte)
  | .stlink e => e.saved leftover
  | .stlinkv2 e => e.saved leftover
  | .espstlink e => e.saved leftover
  | _ => none

end ProgramEnd

/-! ## A run -/

/-- A run of the program: its arguments, and what the environment decides in it. -/
structure Invocation where
  args : List (List Byte)
  /-- `getopt` goes on behind an argument that is no option -/
  permute : Bool
  /-- what `start` holds at first -/
  start : Nat
  /-- the `assert`s of `usb_init` hold -/
  claims : Bool
  /-- the serial port can be opened -/
  portOpens : Bool
  stlink : StlinkEnv
  stlinkHello : StlinkHello
  stlinkv2 : Stlinkv2Env
  stlink2Hello : Stlink2Hello
  wire : EspWire
  stackCurrent : Nat → Byte
  /-- what has come in on the serial port before -/
  line : List Byte
  /-- what `buf` and `buf2` hold at first -/
  heap : Nat → Byte
  heap2 : Nat → Byte
  /-- `fopen` succeeds in a READ -/
  opens : Bool
  /-- the calls of `fprintf` that fail -/
  fails : Nat → Bool
  leftover : Option (List Byte)

/-- A row of `pgms` with what is behind it: how it is opened, its methods, whether `write_range`
completes the last block in the buffer, and its state with a target. -/
structure Row where
  State : Type
  Error : Type
  openPgm : Drv State Error Bool
  pgm : Programmer State Error
  fills : Bool
  init : Target → State
  target : State → Target
  ends : SessionEnd Error → ProgramEnd

/-- From `pgm->open` on, with the target `t`. -/
def Row.run {d : Stm8Device} (row : Row) (j : Job d) (t : Target) : ProgramEnd × Target :=
  let r := session row.openPgm row.pgm row.fills j (row.init t)
  (row.ends r.1, row.target r.2)

/-- The text up to a NUL. -/
def cstring (s : List Byte) : CString :=
  ⟨s.takeWhile (· ≠ 0), fun h => by simpa using List.mem_takeWhile_imp h⟩

namespace Invocation

variable (r : Invocation)

/-- `espstlink_pgm_open` -/
def espstlinkOpen (d : Stm8Device) : Drv WireState EspstlinkError Bool :=
  if r.portOpens then wirePgmOpen d r.wire else pure false

/-- `pgms` -/
def row (d : Stm8Device) : PgmName → Row
  | .stlink =>
    { State := StlinkState
      Error := StlinkError
      openPgm := stlinkOpen d r.stlink r.stlinkHello
      pgm := pgmStlink d r.stlink
      fills := false
      init := fun t => ⟨t, [], 0, [], 0⟩
      target := StlinkState.target
      ends := .stlink }
  | .stlinkv2 =>
    { State := Stlinkv2State
      Error := Stlinkv2Error
      openPgm := stlink2Open d r.stlinkv2 r.stlink2Hello
      pgm := pgmStlinkv2 d (r.stlinkv2.opened r.stlink2Hello)
      fills := true
      init := fun t => ⟨t, [], 0, 0, []⟩
      target := Stlinkv2State.target
      ends := .stlinkv2 }
  | .stlinkv21 | .stlinkv3 =>
    { State := Stlinkv2State
      Error := Stlinkv2Error
      openPgm := stlink2Open d r.stlinkv2 r.stlink2Hello
      pgm := pgmStlinkv21 d (r.stlinkv2.opened r.stlink2Hello)
      fills := true
      init := fun t => ⟨t, [], 0, 0, []⟩
      target := Stlinkv2State.target
      ends := .stlinkv2 }
  | .espstlink =>
    { State := WireState
      Error := EspstlinkError
      openPgm := r.espstlinkOpen d
      pgm := pgmWire d r.wire r.stackCurrent
      fills := true
      init := fun t => ⟨t, 0, r.line, 0⟩
      target := WireState.target
      ends := .espstlink }

/-- `main` from the arguments to `usb_init` -/
def setup : Except Exit Setup := mainArgs r.permute r.start r.args

/-- The same, with the options of the actions. -/
def request : Except Exit Request := mainRequest r.permute r.start r.args

/-- `usb_init`: the place of the programmer. `strcmp` reads the serial number up to a NUL. -/
def place (usb : Libusb) (c : Setup) : Except ProgramEnd Place :=
  match usbInit c.pgm.ids (c.serialno.map cstring) usb with
  | .notUsb => .ok (.serial (c.port.getD (text "/dev/ttyUSB0")))
  | .opened i => if r.claims then .ok (.usb i) else .error .unclaimed
  | outcome => .error (.usb outcome)

/-- The action, with the file that it reads. -/
def action (name : ActionName) (file : Option (List Byte)) : Action :=
  match name with
  | .read => .read r.heap r.opens r.fails
  | .write => .write file
  | .verify => .verify r.heap r.heap2 file
  | .reset => .reset
  | .unlock => .unlock

/-- The job of a request. -/
def job (q : Request) (file : Option (List Byte)) : Job q.options.part where
  options := q.options
  action := r.action q.setup.action file
  part := rfl

end Invocation

/-- `main`; `usb` is what libusb answers. -/
def program (usb : Libusb) (r : Invocation) (w : World) : ProgramEnd × World :=
  match r.request with
  | .error e => (.exit e, w)
  | .ok q =>
    match r.place usb q.setup with
    | .error e => (e, w)
    | .ok p =>
      let e := (r.row q.options.part q.setup.pgm).run (r.job q (w.file q.setup.filename))
        (w.target p)
      (e.1, (w.put p e.2).save q.setup.filename (e.1.saved r.leftover))

/-- The runs `rs`, one after the other. -/
def programs (usb : Libusb) : List Invocation → World → List ProgramEnd × World
  | [], w => ([], w)
  | r :: rs, w =>
    let e := program usb r w
    let rest := programs usb rs e.2
    (e.1 :: rest.1, rest.2)

/-! ## What a run leaves alone -/

/-- The addresses that arrive as they are. -/
def PgmName.limit : PgmName → Nat
  | .stlink => 65536
  | _ => 16777216

/-- How many bytes from the start on may be written. -/
def Setup.size (c : Setup) : Nat :=
  match c.action with
  | .write => (toInt32 (roundedSize c.part (ofInt32 c.bytesCount))).toNat
  | .unlock => blockRounds c.part c.part.unlockSize * c.part.flashBlockSize
  | _ => 0

/-- The address is no control register, and what may be written arrives and lies elsewhere. -/
def Setup.Spares (c : Setup) (a : Nat) : Prop :=
  ¬c.part.IsControl a ∧ c.start + c.size ≤ c.pgm.limit ∧ (a < c.start ∨ c.start + c.size ≤ a)

instance (c : Setup) (a : Nat) : Decidable (c.Spares a) :=
  inferInstanceAs (Decidable (¬_ ∧ _ ∧ _))

/-- What the run asks for, if it gets to the target at `p`, spares the address. -/
def Invocation.Spares (r : Invocation) (usb : Libusb) (p : Place) (a : Nat) : Prop :=
  ∀ c, r.setup = .ok c → r.place usb c = .ok p → c.Spares a

/-- The run is a READ into the file. -/
def Invocation.ReadsInto (r : Invocation) (name : List Byte) : Prop :=
  ∃ c, r.setup = .ok c ∧ c.action = .read ∧ c.filename = name

/-- What holds of every row of `pgms`. -/
structure Row.Lawful (row : Row) (d : Stm8Device) (limit : Nat) : Prop where
  target_init : ∀ t, row.target (row.init t) = t
  report : ∀ e, (row.ends e).report = e.report
  saved : ∀ leftover e, (row.ends e).saved leftover = e.saved leftover
  opens : ∀ {I : Target → Prop}, ReadClosed d I → PokeClosed d d.SessionReg I →
    Drv.Preserves (fun s => I (row.target s)) row.openPgm
  obeys : row.pgm.Obeys d row.target limit

section Rows

variable {d : Stm8Device} {row : Row} {limit : Nat}

theorem Row.Lawful.run_spares (h : row.Lawful d limit) {j : Job d}
    (hreach : j.options.start + j.size ≤ limit) (t : Target) {a : Nat} (ha : ¬d.IsControl a)
    (hout : j.Spares a) : (row.run j t).2.mem a = t.mem a := by
  have hopen (s : row.State) : (row.target (row.openPgm s).2).mem a = (row.target s).mem a := by
    have hregs : PokeClosed d d.SessionReg fun t => t.HoldsOutside d (row.target s).mem 0 0 :=
      (Target.HoldsOutside.pokeClosed d (row.target s).mem 0 0).mono fun _ hreg => hreg.control
    have hkept := h.opens (Target.HoldsOutside.readClosed d (row.target s).mem 0 0) hregs s
      fun _ _ _ => rfl
    exact hkept a ha (by omega)
  have hrun := session_spares h.obeys hreach row.fills ha hout hopen (row.init t)
  rw [h.target_init] at hrun
  exact hrun

/-- Only a READ has something to store. -/
theorem session_saved {σ ε : Type} (openPgm : Drv σ ε Bool) (pgm : Programmer σ ε) (fills : Bool)
    {j : Job d} {l : Option (List Byte)}
    (haction : ∀ heap opens fails, j.action ≠ .read heap opens fails) (s : σ) :
    (session openPgm pgm fills j s).1.saved l = none := by
  unfold session
  rcases openPgm s with ⟨_ | _ | _, u⟩
  · rfl
  · rfl
  · show (j.action.run pgm j.options fills u).1.saved l = none
    cases haction' : j.action with
    | read heap opens fails => exact absurd haction' (haction _ _ _)
    | verify heap heap2 file => rfl
    | write file => rfl
    | unlock => rfl
    | reset => rfl

theorem Row.Lawful.run_saved (h : row.Lawful d limit) {j : Job d} {l : Option (List Byte)}
    (haction : ∀ heap opens fails, j.action ≠ .read heap opens fails) (t : Target) :
    (row.run j t).1.saved l = none :=
  (h.saved l _).trans (session_saved row.openPgm row.pgm row.fills haction (row.init t))

theorem Invocation.espstlinkOpen_effect (r : Invocation) (hd : d.Sound) {I : Target → Prop}
    (hses : PokeClosed d d.SessionReg I) :
    Drv.Preserves (fun s => I (WireState.target s)) (r.espstlinkOpen d) := by
  have hflush : Drv.Preserves (fun s => I (WireState.target s)) (wirePgmOpen d r.wire) := by
    intro s hs
    exact wireLib_obeys.pgmOpen hd hses { s with stream := [] } hs
  unfold espstlinkOpen
  exact Drv.Preserves.ite (fun _ => hflush) fun _ => Drv.Preserves.pure _

theorem Invocation.row_lawful (r : Invocation) (hd : d.Sound) (name : PgmName) :
    (r.row d name).Lawful d name.limit := by
  cases name with
  | stlink =>
    exact ⟨fun _ => rfl, fun _ => rfl, fun _ _ => rfl,
      fun _ _ => effect_of_seen (stlinkOpen_seen _), (Backend.stlink r.stlink).obeys hd⟩
  | stlinkv2 =>
    exact ⟨fun _ => rfl, fun _ => rfl, fun _ _ => rfl,
      fun hread hses => stlink2Open_effect hd hread hses _, (Backend.stlinkv2 _).obeys hd⟩
  | stlinkv21 =>
    exact ⟨fun _ => rfl, fun _ => rfl, fun _ _ => rfl,
      fun hread hses => stlink2Open_effect hd hread hses _, (Backend.stlinkv21 _).obeys hd⟩
  | stlinkv3 =>
    exact ⟨fun _ => rfl, fun _ => rfl, fun _ _ => rfl,
      fun hread hses => stlink2Open_effect hd hread hses _, (Backend.stlinkv21 _).obeys hd⟩
  | espstlink =>
    exact ⟨fun _ => rfl, fun _ => rfl, fun _ _ => rfl,
      fun _ hses => r.espstlinkOpen_effect hd hses, pgmWire_obeys hd r.stackCurrent⟩

end Rows

section Runs

variable {usb : Libusb} {r : Invocation}

theorem Invocation.job_size (r : Invocation) (q : Request) (file : Option (List Byte)) :
    (r.job q file).size = q.setup.size := by
  have hpart := q.part
  have hcount := q.count
  unfold Job.size Setup.size Invocation.job Invocation.action writeAlign
  rw [← hpart, ← hcount]
  cases q.setup.action <;> rfl

/-- The three ways that a run can take. -/
theorem program_cases (usb : Libusb) (r : Invocation) (w : World) :
    (∃ e, r.request = .error e ∧ program usb r w = (.exit e, w)) ∨
    (∃ q e, r.request = .ok q ∧ r.place usb q.setup = .error e ∧
      program usb r w = (e, w)) ∨
    ∃ q p e t, r.request = .ok q ∧ r.place usb q.setup = .ok p ∧
      (r.row q.options.part q.setup.pgm).run (r.job q (w.file q.setup.filename)) (w.target p) =
        (e, t) ∧
      program usb r w = (e, (w.put p t).save q.setup.filename (e.saved r.leftover)) := by
  unfold program
  rcases hq : r.request with e | q
  · exact Or.inl ⟨e, rfl, rfl⟩
  rcases hp : r.place usb q.setup with e | p
  · exact Or.inr (Or.inl ⟨q, e, rfl, hp, by simp only [hp]⟩)
  · rcases hrow : (r.row q.options.part q.setup.pgm).run (r.job q (w.file q.setup.filename))
      (w.target p) with ⟨e, t⟩
    exact Or.inr (Or.inr ⟨q, p, e, t, rfl, hp, hrow, by simp only [hp, hrow]⟩)

theorem program_spares {p : Place} {a : Nat} (h : r.Spares usb p a) (w : World) :
    ((program usb r w).2.target p).mem a = (w.target p).mem a := by
  rcases program_cases usb r w with ⟨e, -, hrun⟩ | ⟨q, e, -, -, hrun⟩ |
    ⟨q, p', e, t, hq, hp, hrow, hrun⟩
  · rw [hrun]
  · rw [hrun]
  · rw [hrun, World.save_target]
    by_cases hsame : p = p'
    · subst hsame
      have hspares := h q.setup (mainRequest_ok hq) hp
      have hsize := r.job_size q (w.file q.setup.filename)
      have hd := stm8Devices_sound q.options.part q.options.part_mem
      have hkept := (r.row_lawful hd q.setup.pgm).run_spares
        (j := r.job q (w.file q.setup.filename)) (t := w.target p) (a := a)
        (by rw [hsize]; exact q.start ▸ hspares.2.1) (by rw [q.part]; exact hspares.1)
        (by unfold Job.Spares; rw [hsize]; exact q.start ▸ hspares.2.2)
      rw [hrow] at hkept
      rw [World.put_target_self]
      exact hkept
    · rw [World.put_target_of_ne w hsame]

theorem program_file {name : List Byte} (h : ¬r.ReadsInto name) (w : World) :
    (program usb r w).2.file name = w.file name := by
  rcases program_cases usb r w with ⟨e, -, hrun⟩ | ⟨q, e, -, -, hrun⟩ |
    ⟨q, p, e, t, hq, -, hrow, hrun⟩
  · rw [hrun]
  · rw [hrun]
  · rw [hrun]
    by_cases hname : name = q.setup.filename
    · have hd := stm8Devices_sound q.options.part q.options.part_mem
      have haction : ∀ heap opens fails,
          (r.job q (w.file q.setup.filename)).action ≠ .read heap opens fails := by
        intro heap opens fails haction
        refine h ⟨q.setup, mainRequest_ok hq, ?_, hname.symm⟩
        unfold Invocation.job Invocation.action at haction
        cases hact : q.setup.action with
        | read => rfl
        | write | verify | reset | unlock => simp [hact] at haction
      have hsaved : e.saved r.leftover = none := by
        have hnone := (r.row_lawful hd q.setup.pgm).run_saved haction (w.target p) (l := r.leftover)
        rwa [hrow] at hnone
      rw [hsaved, World.save_none, World.put_file]
    · rw [World.save_file_of_ne _ hname, World.put_file]

theorem programs_spares {p : Place} {a : Nat} {rs : List Invocation}
    (h : ∀ r ∈ rs, r.Spares usb p a) (w : World) :
    ((programs usb rs w).2.target p).mem a = (w.target p).mem a := by
  induction rs generalizing w with
  | nil => rfl
  | cons r rs ih =>
    have hone := program_spares (h r (List.mem_cons_self ..)) w
    have hrest := ih (fun r' hr' => h r' (List.mem_cons_of_mem _ hr')) (program usb r w).2
    exact hrest.trans hone

theorem programs_file {name : List Byte} {rs : List Invocation} (h : ∀ r ∈ rs, ¬r.ReadsInto name)
    (w : World) : (programs usb rs w).2.file name = w.file name := by
  induction rs generalizing w with
  | nil => rfl
  | cons r rs ih =>
    have hone := @program_file usb r name (h r (List.mem_cons_self ..)) w
    have hrest := ih (fun r' hr' => h r' (List.mem_cons_of_mem _ hr')) (program usb r w).2
    exact hrest.trans hone

/-- Whatever the command lines ask for, whatever the programmers answer and whatever fails, any
number of runs change no data outside the ranges of the WRITEs and UNLOCKs that get to a target, and
no file but those of the READs. -/
theorem programs_frame (usb : Libusb) (rs : List Invocation) (w : World) :
    (∀ p a, (∀ r ∈ rs, r.Spares usb p a) →
      ((programs usb rs w).2.target p).mem a = (w.target p).mem a) ∧
    ∀ name, (∀ r ∈ rs, ¬r.ReadsInto name) →
      (programs usb rs w).2.file name = w.file name :=
  ⟨fun _ _ h => programs_spares h w, fun _ h => programs_file h w⟩

/-- A run on a desk where everything is there and answers. -/
def sampleRun (args : List (List Byte)) : Invocation where
  args := args
  permute := false
  start := 0
  claims := true
  portOpens := true
  stlink := .answering
  stlinkHello := ⟨[], [], 0, [], [0x00, 0x00]⟩
  stlinkv2 := .answering
  stlink2Hello := ⟨0x01, 0x00, 0x18⟩
  wire := .ofEnv sampleOptions.part .answering [0, 1]
  stackCurrent := fun _ => 0
  line := [0x17]
  heap := fun _ => 1
  heap2 := fun _ => 1
  opens := true
  fails := fun _ => false
  leftover := none

/-- `-c stlinkv2 -p stlux385 -S 12 -b 2`, and an action -/
def sampleArgs (action : List (List Byte)) : List (List Byte) :=
  [text "-c", text "stlinkv2", text "-p", text "stlux385", text "-S", text "12", text "-b",
    text "2"] ++ action

/-- What these arguments ask for. -/
def sampleSetup (action : ActionName) (filename : List Byte) : Setup where
  pgm := .stlinkv2
  serialno := some (text "12")
  port := none
  part := sampleOptions.part
  memtype := .flash
  start := 0x8000
  bytesCount := 2
  filename := filename
  action := action

/-- Two programmers; the first one has the serial number 12. -/
def sampleDevices : List UsbDevice :=
  [usbAttached [0x12] (by decide), usbAttached [0xAB, 0xCD] (by decide)]

/-- Two bytes in every file, and every target erased. -/
def sampleWorld : World := ⟨fun _ => some [0x55, 0xAA], fun _ => .idle fun _ => 0xff⟩

theorem sampleRun_setup_write :
    (sampleRun (sampleArgs [text "-w", text "f.bin"])).setup =
      .ok (sampleSetup .write (text "f.bin")) := by
  decide +kernel

/-- Two WRITEs of two bytes, by programmers that answer: behind the first block nothing changes, and
the file stays as it is. -/
theorem programs_frame_two :
    ((programs (.showing sampleDevices) [sampleRun (sampleArgs [text "-w", text "f.bin"]),
      sampleRun (sampleArgs [text "-w", text "f.bin"])]
      sampleWorld).2.target (.usb 0)).mem 0x8080 =
        0xff ∧
    (programs (.showing sampleDevices) [sampleRun (sampleArgs [text "-w", text "f.bin"]),
      sampleRun (sampleArgs [text "-w", text "f.bin"])]
      sampleWorld).2.file (text "f.bin") =
        some [0x55, 0xAA] := by
  have hframe := programs_frame (.showing sampleDevices)
    [sampleRun (sampleArgs [text "-w", text "f.bin"]),
      sampleRun (sampleArgs [text "-w", text "f.bin"])]
    sampleWorld
  refine ⟨hframe.1 (.usb 0) 0x8080 ?_, hframe.2 (text "f.bin") ?_⟩
  · intro r hr c hc hplace
    rw [List.mem_pair, or_self] at hr
    rw [hr, sampleRun_setup_write] at hc
    cases hc
    decide
  · rintro r hr ⟨c, hc, hread, -⟩
    rw [List.mem_pair, or_self] at hr
    rw [hr, sampleRun_setup_write] at hc
    cases hc
    cases hread

/-! ## The target with a serial number -/

/-- With `-S`, where no left-over digits mislead, only a device with the serial number is opened. -/
theorem place_serialno {devs : List UsbDevice} {openWith : UsbIds → Option Nat} {c : Setup}
    {s : List Byte} {i : Nat} (hserialno : c.serialno = some s)
    (hunmixed : Unmixed c.pgm.ids (cstring s).1 devs)
    (hplace : r.place ⟨some devs, openWith⟩ c = .ok (.usb i)) :
    ∃ d, devs[i]? = some d ∧ d.digits = (cstring s).1 := by
  have hopened : usbInit c.pgm.ids (some (cstring s)) ⟨some devs, openWith⟩ = .opened i := by
    unfold Invocation.place at hplace
    rw [hserialno, Option.map_some] at hplace
    rcases hinit : usbInit c.pgm.ids (some (cstring s)) ⟨some devs, openWith⟩ with _ | _ | j | _ | _
    · simp [hinit] at hplace
    · simp [hinit] at hplace
    · simp only [hinit] at hplace
      split at hplace
      · cases hplace
        rfl
      · cases hplace
    · simp [hinit] at hplace
    · simp [hinit] at hplace
  exact UsbIds.wants_of_findIdx? ((usbInit_opened_iff hunmixed).mp hopened).2

/-- A run leaves the targets alone that it does not get to. -/
theorem program_elsewhere {p : Place}
    (h : ∀ c, r.setup = .ok c → r.place usb c ≠ .ok p) (w : World) :
    (program usb r w).2.target p = w.target p := by
  rcases program_cases usb r w with ⟨e, -, hrun⟩ | ⟨q, e, -, -, hrun⟩ |
    ⟨q, p', e, t, hq, hp, -, hrun⟩
  · rw [hrun]
  · rw [hrun]
  · rw [hrun, World.save_target]
    refine World.put_target_of_ne w (fun hsame => ?_) t
    rw [hsame] at h
    exact h q.setup (mainRequest_ok hq) hp

/-- Runs that all select their programmer with `-S`, where no left-over digits mislead, do nothing
at all to the targets behind the devices with other serial numbers. -/
theorem programs_serialno {devs : List UsbDevice} {openWith : UsbIds → Option Nat} {i : Nat}
    {rs : List Invocation}
    (h : ∀ r ∈ rs, ∀ c, r.setup = .ok c → ∃ s, c.serialno = some s ∧
      Unmixed c.pgm.ids (cstring s).1 devs ∧ ∀ d, devs[i]? = some d → d.digits ≠ (cstring s).1)
    (w : World) :
    (programs ⟨some devs, openWith⟩ rs w).2.target (.usb i) = w.target (.usb i) := by
  induction rs generalizing w with
  | nil => rfl
  | cons r rs ih =>
    have hone : (program ⟨some devs, openWith⟩ r w).2.target (.usb i) = w.target (.usb i) := by
      refine program_elsewhere (fun c hc hplace => ?_) w
      obtain ⟨s, hserialno, hunmixed, hother⟩ := h r (List.mem_cons_self ..) c hc
      obtain ⟨d, hd, hdigits⟩ := place_serialno hserialno hunmixed hplace
      exact hother d hd hdigits
    have hrest := ih (fun r' hr' => h r' (List.mem_cons_of_mem _ hr'))
      (program ⟨some devs, openWith⟩ r w).2
    exact hrest.trans hone

/-- Two WRITEs with `-S 12`, and the target behind the other programmer. -/
theorem programs_serialno_two :
    (programs (.showing sampleDevices) [sampleRun (sampleArgs [text "-w", text "f.bin"]),
      sampleRun (sampleArgs [text "-w", text "f.bin"])]
      sampleWorld).2.target (.usb 1) =
        .idle fun _ => 0xff := by
  refine programs_serialno (i := 1) (fun r hr c hc => ?_) _
  rw [List.mem_pair, or_self] at hr
  rw [hr, sampleRun_setup_write] at hc
  cases hc
  refine ⟨text "12", rfl, unmixed_of_pairwise (by decide) _, fun d hd => ?_⟩
  cases hd
  decide

end Runs

end Stm8Flash
