import Stm8Flash.Programming

/-! # `espstlink.c` over its library

`espstlink.c` knows its programmer through the functions of `libespstlink.h` only. Here these are
the fields of `EspSwim`, `EspConnect` and `EspLib`, and the functions of `espstlink.c` are written
over them. What the library does with its commands, and what becomes of them on the target, is for
its instances to say. The `usleep` calls are not recorded.
-/

namespace Stm8Flash

open Hex Word

/-- The ways the functions of this back end end the program. -/
inductive EspstlinkError where
  /-- `Tries exceeded` -/
  | triesExceeded
  /-- `target page is write protected (UBC) or read-out protection is enabled` -/
  | writeProtected
  /-- No message: a length that is negative as `int` goes to `memcpy`. -/
  | overrun
deriving DecidableEq, Repr

/-- `#define DM_CSR2 0x7F99` -/
def espstlinkDmCsr2 : Nat := 0x7F99

/-! ## The memory of the target -/

/-- The functions of the library that read and write the memory of the target. -/
structure EspSwim (σ ε : Type) where
  /-- `espstlink_swim_read`: the bytes that go to `buffer`, if it returns true -/
  swimRead : Nat → Nat → Drv σ ε (Option (List Byte))
  /-- `espstlink_swim_write` -/
  swimWrite : List Byte → Nat → Nat → Drv σ ε Bool

namespace EspSwim

variable {σ ε : Type}

section Bytes

variable (lib : EspSwim σ ε) (d : Stm8Device)

/-- `espstlink_read_byte`. The `int` it returns is its 32-bit pattern, so a failure is
`0xFFFFFFFF`. -/
def readByte (addr : Nat) : Drv σ ε Nat := do
  let bytes ← lib.swimRead addr 1
  match bytes with
  | some bs => pure (bs.headD 0).toNat
  | none => pure 0xFFFFFFFF

/-- `espstlink_write_byte` -/
def writeByte (byte : Byte) (addr : Nat) : Drv σ ε Bool := lib.swimWrite [byte] addr 1

/-- `espstlink_stall` -/
def stall (stall : Bool) : Drv σ ε Bool := do
  let csr ← lib.readByte espstlinkDmCsr2
  if csr = 0xFFFFFFFF then pure false
  else
    lib.writeByte (UInt8.ofNat (if stall then csr ||| 8 else csr &&& 0xFFFFFFF7)) espstlinkDmCsr2

/-- Two keys for one register; the second is not sent when the first fails. -/
def keys (first second : Byte) (reg : Nat) : Drv σ ε Bool := do
  let ok ← lib.writeByte first reg
  if ok then lib.writeByte second reg else pure false

/-- `espstlink_prepare_for_flash` -/
def prepareForFlash (memtype : Memtype) : Drv σ ε Bool := do
  let ok ← lib.stall true
  if ok then
    match memtype with
    | .flash => lib.keys 0x56 0xae d.regs.flashPukr
    | .eeprom | .opt => lib.keys 0xae 0x56 d.regs.flashDukr
    | _ => pure true
  else pure false

/-- `if (device->regs.FLASH_NCR2 != 0) espstlink_write_byte(pgm, byte, device->regs.FLASH_NCR2)` -/
def writeNcr2 (byte : Byte) : Drv σ ε Unit :=
  if d.regs.flashNcr2 ≠ 0 then do
    let _ ← lib.writeByte byte d.regs.flashNcr2
    pure ()
  else pure ()

/-- Block programming mode, where it is needed. -/
def enterBlock (memtype : Memtype) (current : Nat → Byte) (i : Nat) : Drv σ ε Unit :=
  if memtype.isBlock then do
    let _ ← lib.writeByte (prgmode d current i) d.regs.flashCr2
    lib.writeNcr2 d (~~~prgmode d current i)
  else pure ()

/-- `DUL` and `PUL` are reset, when `FLASH_IAPSR` can be read. -/
def lock (memtype : Memtype) : Drv σ ε Unit :=
  if memtype = .flash ∨ memtype = .eeprom ∨ memtype = .opt then do
    let iapsr ← lib.readByte d.regs.flashIapsr
    if iapsr ≠ 0xFFFFFFFF then do
      let _ ← lib.writeByte (UInt8.ofNat (iapsr &&& 0xfffffff5)) d.regs.flashIapsr
      pure ()
    else pure ()
  else pure ()

/-- `espstlink_srst`, with the `espstlink_swim_srst` of the library -/
def srst (swimSrst : Drv σ ε Bool) : Drv σ ε Unit := do
  let _ ← swimSrst
  let _ ← lib.stall false
  pure ()

end Bytes

section Ranges

variable (lib : EspSwim σ EspstlinkError) (d : Stm8Device) (stackCurrent : Nat → Byte)

/-- The loop of `espstlink_swim_read_range` from `i` on. A round takes at least one byte, so
`length` rounds are enough. -/
def readLoop (start length : Nat) :
    Nat → Nat → (Nat → Byte) → Drv σ EspstlinkError (Nat × (Nat → Byte))
  | 0, i, buffer => pure (i, buffer)
  | fuel + 1, i, buffer =>
    if i < length then
      if length - i < 2147483648 then do
        let size := if length - i > 255 then 255 else length - i
        let bytes ← lib.swimRead (u32 (start + i)) size
        match bytes with
        | some bs =>
          readLoop start length fuel (i + size) (Image.storeAll buffer (Image.block i bs))
        | none => pure (i, buffer)
      else Drv.stop .overrun
    else pure (i, buffer)

/-- `espstlink_swim_read_range`: the value returned and the contents of `buffer` then. -/
def readRange (buffer : Nat → Byte) (start length : Nat) :
    Drv σ EspstlinkError (Int × (Nat → Byte)) := do
  let (i, buffer) ← lib.readLoop start length length 0 buffer
  pure (toInt32 i, buffer)

/-- The option byte `buffer[i]`, and the wait for it. -/
def optByte (buffer : Nat → Byte) (start i : Nat) : Drv σ EspstlinkError Unit := do
  let _ ← lib.writeByte (buffer i) (u32 (start + i))
  tryEop (lib.readByte d.regs.flashIapsr) .triesExceeded 5

/-- The option bytes, one by one. -/
def writeOpt (buffer : Nat → Byte) (start length : Nat) : Drv σ EspstlinkError Unit := do
  let _ ← lib.writeByte 0x80 d.regs.flashCr2
  lib.writeNcr2 d 0x7F
  Drv.forFrom (lib.optByte d buffer start) length 0

/-- `espstlink_wait_until_transfer_completes`, where it is needed. -/
def waitBlock (memtype : Memtype) : Drv σ EspstlinkError Unit :=
  if memtype.isBlock then waitEop (lib.readByte d.regs.flashIapsr) .writeProtected 5
  else pure ()

/-- The block at `buffer + i`, when it differs; a block that cannot be sent makes the function
return `i`. -/
def writeBlock (memtype : Memtype) (buffer current : Nat → Byte) (start i : Nat) :
    Drv σ EspstlinkError (Option Nat) :=
  if Image.slice current i d.flashBlockSize = Image.slice buffer i d.flashBlockSize then pure none
  else do
    lib.enterBlock d memtype current i
    let ok ← lib.swimWrite (Image.slice buffer i d.flashBlockSize) (u32 (start + i))
      d.flashBlockSize
    if ok then do
      lib.waitBlock d memtype
      pure none
    else pure (some i)

/-- The blocks of the range: the offset of a block that could not be sent. `stackCurrent` is
`current` before the pre-read. -/
def writeBlocks (memtype : Memtype) (buffer : Nat → Byte) (start length : Nat) :
    Drv σ EspstlinkError (Option Nat) := do
  let (_, current) ← lib.readRange stackCurrent start (roundedSize d length)
  Drv.loopFrom (fun j => lib.writeBlock d memtype
    (mergeTail buffer current length (roundedSize d length)) current start
    (j * d.flashBlockSize)) (blockRounds d length) 0

/-- `espstlink_swim_write_range`. The value of `i` after the loop of the option bytes is
`length`, after the loop of the blocks the rounded length. -/
def writeRange (buffer : Nat → Byte) (start length : Nat) (memtype : Memtype) :
    Drv σ EspstlinkError Int := do
  let _ ← lib.prepareForFlash d memtype
  if memtype = .opt then do
    lib.writeOpt d buffer start length
    lib.lock d memtype
    pure (toInt32 length)
  else do
    let failed ← lib.writeBlocks d stackCurrent memtype buffer start length
    match failed with
    | some i => pure (toInt32 i)
    | none => do
      lib.lock d memtype
      pure (toInt32 (blockRounds d length * d.flashBlockSize))

/-- `espstlink_swim_write_range` with a length that is negative as `int`, up to its first access
outside the `size` bytes at `buffer`. The option bytes go to the end of them; the stack has no room
for the blocks. -/
def writeNegative (buffer : Nat → Byte) (start size : Nat) (memtype : Memtype) :
    Drv σ EspstlinkError Unit := do
  let _ ← lib.prepareForFlash d memtype
  if memtype = .opt then lib.writeOpt d buffer start size else pure ()

end Ranges

/-! ## What the functions leave alone -/

section Registers

variable {σ ε β : Type} {d : Stm8Device} {lib : EspSwim σ ε} {f : σ → β}
  (hncr2 : d.regs.flashNcr2 ≠ 0 → ∀ v, Drv.Keeps f (lib.writeByte v d.regs.flashNcr2))

include hncr2

theorem writeNcr2_keeps (byte : Byte) : Drv.Keeps f (lib.writeNcr2 d byte) := by
  unfold writeNcr2
  split
  · exact (hncr2 ‹_› byte).bind fun _ => Drv.Keeps.pure _
  · exact Drv.Keeps.pure _

theorem enterBlock_keeps (hcr2 : ∀ v, Drv.Keeps f (lib.writeByte v d.regs.flashCr2))
    (memtype : Memtype) (current : Nat → Byte) (i : Nat) :
    Drv.Keeps f (lib.enterBlock d memtype current i) :=
  Drv.Keeps.ite ((hcr2 _).bind fun _ => writeNcr2_keeps hncr2 _) (Drv.Keeps.pure _)

end Registers

section Reads

variable {σ β : Type} {d : Stm8Device} {f : σ → β}

theorem readByte_keeps {ε : Type} {lib : EspSwim σ ε}
    (h : ∀ addr size, Drv.Keeps f (lib.swimRead addr size)) (addr : Nat) :
    Drv.Keeps f (lib.readByte addr) := by
  apply (h addr 1).bind
  intro bytes
  cases bytes with
  | none => exact Drv.Keeps.pure _
  | some bs => exact Drv.Keeps.pure _

variable {lib : EspSwim σ EspstlinkError} (h : ∀ addr size, Drv.Keeps f (lib.swimRead addr size))

include h

theorem readLoop_keeps (start length fuel i : Nat) (buffer : Nat → Byte) :
    Drv.Keeps f (lib.readLoop start length fuel i buffer) := by
  induction fuel generalizing i buffer with
  | zero => exact Drv.Keeps.pure _
  | succ fuel ih =>
    refine Drv.Keeps.ite (Drv.Keeps.ite ?_ (Drv.Keeps.stop _)) (Drv.Keeps.pure _)
    apply (h _ _).bind
    intro bytes
    cases bytes with
    | none => exact Drv.Keeps.pure _
    | some bs => exact ih _ _

theorem readRange_keeps (buffer : Nat → Byte) (start length : Nat) :
    Drv.Keeps f (lib.readRange buffer start length) :=
  (readLoop_keeps h _ _ _ _ _).bind fun _ => Drv.Keeps.pure _

theorem waitBlock_keeps (memtype : Memtype) : Drv.Keeps f (lib.waitBlock d memtype) :=
  Drv.Keeps.ite (waitEop_keeps (readByte_keeps h _) _ 5) (Drv.Keeps.pure _)

/-- What neither the choice of the mode nor the block itself changes, a round does not change. -/
theorem writeBlock_keeps {memtype : Memtype} {buffer current : Nat → Byte} {start i : Nat}
    (henter : Drv.Keeps f (lib.enterBlock d memtype current i))
    (hsend : Drv.Keeps f (lib.swimWrite (Image.slice buffer i d.flashBlockSize) (u32 (start + i))
      d.flashBlockSize)) :
    Drv.Keeps f (lib.writeBlock d memtype buffer current start i) := by
  refine Drv.Keeps.ite (Drv.Keeps.pure _) ?_
  refine henter.bind fun _ => hsend.bind fun _ => ?_
  exact Drv.Keeps.ite ((waitBlock_keeps h memtype).bind fun _ => Drv.Keeps.pure _)
    (Drv.Keeps.pure _)

end Reads

/-- `f` does not show reads, nor the bytes that are written to control registers. -/
structure Frame {σ β : Type} (d : Stm8Device) (lib : EspSwim σ EspstlinkError) (f : σ → β) :
    Prop where
  read : ∀ addr size, Drv.Keeps f (lib.swimRead addr size)
  control : ∀ v a, d.IsControl a → Drv.Keeps f (lib.writeByte v a)

namespace Frame

variable {σ β : Type} {d : Stm8Device} {lib : EspSwim σ EspstlinkError} {f : σ → β}
  (h : Frame d lib f)

include h

theorem readByte (addr : Nat) : Drv.Keeps f (lib.readByte addr) := readByte_keeps h.read addr

theorem stall (hd : d.Sound) (stall : Bool) : Drv.Keeps f (lib.stall stall) := by
  have hctl : d.IsControl espstlinkDmCsr2 := by
    rw [show espstlinkDmCsr2 = d.regs.flashDmCsr2 from hd.flashDmCsr2.symm]
    exact d.control_flashDmCsr2
  refine (h.readByte _).bind fun csr => ?_
  exact Drv.Keeps.ite (Drv.Keeps.pure _) (h.control _ _ hctl)

theorem keys (first second : Byte) {reg : Nat} (hreg : d.IsControl reg) :
    Drv.Keeps f (lib.keys first second reg) :=
  (h.control first reg hreg).bind fun _ =>
    Drv.Keeps.ite (h.control second reg hreg) (Drv.Keeps.pure _)

theorem prepareForFlash (hd : d.Sound) (memtype : Memtype) :
    Drv.Keeps f (lib.prepareForFlash d memtype) := by
  refine (h.stall hd true).bind fun _ => Drv.Keeps.ite ?_ (Drv.Keeps.pure _)
  cases memtype with
  | unknown => exact Drv.Keeps.pure _
  | ram => exact Drv.Keeps.pure _
  | eeprom => exact h.keys _ _ d.control_flashDukr
  | flash => exact h.keys _ _ d.control_flashPukr
  | opt => exact h.keys _ _ d.control_flashDukr

theorem readRange (buffer : Nat → Byte) (start length : Nat) :
    Drv.Keeps f (lib.readRange buffer start length) := readRange_keeps h.read buffer start length

theorem writeNcr2 (byte : Byte) : Drv.Keeps f (lib.writeNcr2 d byte) :=
  writeNcr2_keeps (fun hne v => h.control v _ (d.control_flashNcr2 hne)) byte

theorem enterBlock (memtype : Memtype) (current : Nat → Byte) (i : Nat) :
    Drv.Keeps f (lib.enterBlock d memtype current i) :=
  enterBlock_keeps (fun hne v => h.control v _ (d.control_flashNcr2 hne))
    (fun v => h.control v _ d.control_flashCr2) memtype current i

theorem waitBlock (memtype : Memtype) : Drv.Keeps f (lib.waitBlock d memtype) :=
  waitBlock_keeps h.read memtype

theorem lock (memtype : Memtype) : Drv.Keeps f (lib.lock d memtype) := by
  refine Drv.Keeps.ite ((h.readByte _).bind fun _ => ?_) (Drv.Keeps.pure _)
  exact Drv.Keeps.ite ((h.control _ _ d.control_flashIapsr).bind fun _ => Drv.Keeps.pure _)
    (Drv.Keeps.pure _)

end Frame

/-! ## The early return -/

end EspSwim

/-! ## The connection -/

/-- What `espstlink_swim_reconnect` calls. -/
structure EspConnect (σ ε : Type) where
  /-- `espstlink_reset` -/
  reset : Bool → Bool → Drv σ ε Bool
  /-- `espstlink_swim_entry` -/
  swimEntry : Drv σ ε Bool
  /-- `espstlink_swim_srst` -/
  swimSrst : Drv σ ε Bool
  /-- `espstlink_write_byte` -/
  writeByte : Byte → Nat → Drv σ ε Bool

namespace EspConnect

variable {σ ε : Type} (lib : EspConnect σ ε)

/-- `version > 0 && !espstlink_reset(…)`: older firmware has no command for the reset pin. -/
def resetPin (version : Int) (input enableReset : Bool) : Drv σ ε Bool :=
  if version > 0 then lib.reset input enableReset else pure true

/-- `espstlink_swim_reconnect`, behind the first `espstlink_reset` -/
def reconnectEntry (version : Int) : Drv σ ε Bool := do
  let entered ← lib.swimEntry
  if entered then do
    let reset ← lib.swimSrst
    if reset then do
      let ret ← lib.writeByte 0xA0 0x7f80
      let high ← lib.resetPin version true false
      if high then pure ret else pure false
    else pure false
  else pure false

/-- `espstlink_swim_reconnect` -/
def swimReconnect (version : Int) : Drv σ ε Bool := do
  let low ← lib.resetPin version false true
  if low then lib.reconnectEntry version else pure false

end EspConnect

/-- The functions of `libespstlink.h`, for one `espstlink_t`. -/
structure EspLib (σ : Type) extends EspSwim σ EspstlinkError where
  /-- `espstlink_fetch_version`: the version, if it returns true -/
  fetchVersion : Drv σ EspstlinkError (Option Nat)
  /-- `espstlink_reset` -/
  reset : Bool → Bool → Drv σ EspstlinkError Bool
  /-- `espstlink_swim_entry` -/
  swimEntry : Drv σ EspstlinkError Bool
  /-- `espstlink_swim_srst` -/
  swimSrst : Drv σ EspstlinkError Bool

namespace EspLib

variable {σ : Type} (lib : EspLib σ)

/-- What `espstlink_swim_reconnect` calls. -/
def connect : EspConnect σ EspstlinkError where
  reset := lib.reset
  swimEntry := lib.swimEntry
  swimSrst := lib.swimSrst
  writeByte := lib.writeByte

/-- `espstlink_srst` -/
def srst : Drv σ EspstlinkError Unit := lib.toEspSwim.srst lib.swimSrst

/-- `espstlink_pgm_open`, when the port can be opened -/
def pgmOpen : Drv σ EspstlinkError Bool := do
  let version ← lib.fetchVersion
  match version with
  | some v => lib.connect.swimReconnect v
  | none => pure false

end EspLib

end Stm8Flash
