import Stm8Flash.Programming

/-! # The ST-Link V2 back end

The SWIM part of `stlinkv2.c`, from the bulk transfers up to `stlink2_swim_read_range` and
`stlink2_swim_write_range`. The state is the target, the buffer that the programmer keeps
between `SWIM_READMEM` and `SWIM_READBUF`, and the transfers sent so far; what the
environment decides (which transfer is complete, what the programmer answers to
`SWIM_READSTATUS`, what an array on the stack holds at first) is a `Stlinkv2Env`. The status
requests and the `usleep` calls are not recorded.
-/

namespace Stm8Flash

open Hex Word

/-- A reply to `SWIM_READSTATUS`. -/
abbrev SwimStatus : Type := Byte × Byte × Byte × Byte

/-- The ways the ST-Link V2 functions end the program. -/
inductive Stlinkv2Error where
  /-- `IO error: expected %d bytes but %d bytes transferred` -/
  | io
  /-- `SWIM error 0x%02x` -/
  | swim (status : Byte)
  /-- `Tries exceeded` -/
  | triesExceeded
  /-- `target page is write protected (UBC) or read-out protection is enabled` -/
  | writeProtected
  /-- No message: the program waits for a status reply that does not come. -/
  | noStatus
  /-- No message: the loop of `stlink2_swim_read_range` does not end. -/
  | endless
deriving DecidableEq, Repr

/-- What the environment decides. -/
structure Stlinkv2Env where
  hw : Hardware
  /-- `read_buf_size` -/
  readBufSize : Nat
  /-- the `k`-th bulk transfer moves all its bytes -/
  transferred : Nat → Bool
  /-- the replies to the status requests of the `k`-th SWIM command -/
  replies : Nat → List SwimStatus
  /-- `status[1]` before the first of them -/
  stackStatus : Nat → SwimStatus
  /-- `current` before the pre-read -/
  stackCurrent : Nat → Byte

structure Stlinkv2State where
  target : Target
  readbuf : List Byte
  transfers : Nat
  swimCmds : Nat
  sent : List (List Byte)

namespace Stlinkv2State

/-- One more transfer, with the data `data` in it. -/
def send (s : Stlinkv2State) (data : List Byte) : Stlinkv2State :=
  { s with sent := s.sent ++ [data] }

def countTransfer (s : Stlinkv2State) : Stlinkv2State :=
  { s with transfers := s.transfers + 1 }

def countSwimCmd (s : Stlinkv2State) : Stlinkv2State :=
  { s with swimCmds := s.swimCmds + 1 }

def setTarget (s : Stlinkv2State) (t : Target) : Stlinkv2State := { s with target := t }

def setReadbuf (s : Stlinkv2State) (bs : List Byte) : Stlinkv2State := { s with readbuf := bs }

@[simp] theorem send_target (s : Stlinkv2State) (data : List Byte) :
    (s.send data).target = s.target := rfl
@[simp] theorem send_readbuf (s : Stlinkv2State) (data : List Byte) :
    (s.send data).readbuf = s.readbuf := rfl
@[simp] theorem countTransfer_target (s : Stlinkv2State) : s.countTransfer.target = s.target := rfl
@[simp] theorem countTransfer_readbuf (s : Stlinkv2State) :
    s.countTransfer.readbuf = s.readbuf := rfl
@[simp] theorem countSwimCmd_target (s : Stlinkv2State) : s.countSwimCmd.target = s.target := rfl
@[simp] theorem countSwimCmd_readbuf (s : Stlinkv2State) : s.countSwimCmd.readbuf = s.readbuf := rfl
@[simp] theorem setTarget_target (s : Stlinkv2State) (t : Target) :
    (s.setTarget t).target = t := rfl
@[simp] theorem setTarget_readbuf (s : Stlinkv2State) (t : Target) :
    (s.setTarget t).readbuf = s.readbuf := rfl
@[simp] theorem setReadbuf_target (s : Stlinkv2State) (bs : List Byte) :
    (s.setReadbuf bs).target = s.target := rfl
@[simp] theorem setReadbuf_readbuf (s : Stlinkv2State) (bs : List Byte) :
    (s.setReadbuf bs).readbuf = bs := rfl

end Stlinkv2State

/-- A run of the ST-Link V2 functions. -/
abbrev Stlinkv2 (α : Type) : Type := Drv Stlinkv2State Stlinkv2Error α

/-! ## What the programmer does with a command -/

/-- The length field of `SWIM_WRITEMEM` and `SWIM_READMEM`. -/
def swimLength (p : List Byte) : Nat := be16 (p.getD 2 0).toNat (p.getD 3 0).toNat

/-- The address field of `SWIM_WRITEMEM` and `SWIM_READMEM`. -/
def swimAddr (p : List Byte) : Nat :=
  be32 (p.getD 4 0).toNat (p.getD 5 0).toNat (p.getD 6 0).toNat (p.getD 7 0).toNat

/-- The programmer has got the packet `p` and the data `rest`. -/
def stlink2Receive (d : Stm8Device) (hw : Hardware) (p rest : List Byte) (s : Stlinkv2State) :
    Stlinkv2State :=
  if p.getD 0 0 = 0xf4 ∧ p.getD 1 0 = 0x0a then
    s.setTarget (s.target.write d (swimAddr p) ((p.drop 8 ++ rest).take (swimLength p)))
  else if p.getD 0 0 = 0xf4 ∧ p.getD 1 0 = 0x0b then
    (s.setReadbuf (s.target.read d hw (swimAddr p) (swimLength p))).setTarget
      (s.target.afterRead d (swimAddr p) (swimLength p))
  else s

/-! ## Commands -/

section Commands

variable (d : Stm8Device) (env : Stlinkv2Env)

/-- `msg_transfer` -/
def stlink2MsgTransfer : Stlinkv2 Unit := do
  let s ← Drv.state
  Drv.change fun s => s.countTransfer
  if env.transferred s.transfers then pure () else Drv.stop .io

/-- `msg_send` -/
def stlink2MsgSend (data : List Byte) : Stlinkv2 Unit := do
  stlink2MsgTransfer env
  Drv.change fun s => s.send data

/-- `msg_recv` of bytes that the programmer has in its buffer. -/
def stlink2MsgRecv (length : Nat) : Stlinkv2 (List Byte) :=
  if length = 0 then pure []
  else do
    stlink2MsgTransfer env
    let s ← Drv.state
    if s.readbuf.length < length then Drv.stop .io else pure (s.readbuf.take length)

/-- The packet of `stlink2_cmd_internal`: 16 bytes with the arguments and as much of `buf` as
fits. -/
def stlink2Packet (args buf : List Byte) : List Byte :=
  let used := args ++ buf.take (16 - args.length)
  used ++ List.replicate (16 - used.length) 0

/-- What of `buf` does not fit the packet. -/
def stlink2Rest (args buf : List Byte) : List Byte := buf.drop (16 - args.length)

/-- `if (buf_len) msg_send(pgm, buf, buf_len)` -/
def stlink2SendRest (buf : List Byte) : Stlinkv2 Unit :=
  if buf = [] then pure () else stlink2MsgSend env buf

/-- `stlink2_cmd_internal` -/
def stlink2CmdInternal (args buf : List Byte) : Stlinkv2 Unit := do
  stlink2MsgSend env (stlink2Packet args buf)
  stlink2SendRest env (stlink2Rest args buf)
  Drv.change fun s => stlink2Receive d env.hw (stlink2Packet args buf) (stlink2Rest args buf) s

/-- The status loop of `swim_cmd_internal`: `other` is the reply before the next one, or what
the buffer for it holds at first. -/
def swimPoll (other : SwimStatus) (stalls : Nat) : List SwimStatus → Except Stlinkv2Error Unit
  | [] => .error .noStatus
  | status :: replies =>
    if status.1 = 0 then .ok ()
    else
      let stalls := if status = other then stalls + 1 else 0
      if stalls < 4 then swimPoll status stalls replies else .error (.swim status.1)

/-- `swim_cmd_internal` -/
def swimCmdInternal (args buf : List Byte) : Stlinkv2 Unit := do
  stlink2CmdInternal d env args buf
  let s ← Drv.state
  Drv.change fun s => s.countSwimCmd
  match swimPoll (env.stackStatus s.swimCmds) 0 (env.replies s.swimCmds) with
  | .ok () => pure ()
  | .error e => Drv.stop e

/-- The arguments of a memory command: `STLINK_SWIM`, the command, the length and the four
bytes of the address. -/
def swimMemArgs (cmd : Byte) (lengthHi lengthLo a₃ a₂ a₁ a₀ : Nat) : List Byte :=
  [0xf4, cmd, UInt8.ofNat lengthHi, UInt8.ofNat lengthLo, UInt8.ofNat a₃, UInt8.ofNat a₂,
    UInt8.ofNat a₁, UInt8.ofNat a₀]

/-- `swim_write_byte` -/
def swimWriteByte (byte : Byte) (start : Nat) : Stlinkv2 Unit :=
  swimCmdInternal d env
    (swimMemArgs 0x0a 0x00 0x01 0x00 (EX start) (HI start) (LO start) ++ [byte]) []

/-- `swim_read_byte` -/
def swimReadByte (addr : Nat) : Stlinkv2 Nat := do
  swimCmdInternal d env (swimMemArgs 0x0b 0x00 0x01 0x00 (EX addr) (HI addr) (LO addr)) []
  stlink2CmdInternal d env [0xf4, 0x0c] []
  let bs ← stlink2MsgRecv env 1
  pure (bs.headD 0).toNat

/-! ## Reset and close -/

/-- `stlink2_srst` -/
def stlink2Srst : Stlinkv2 Unit := do
  let csr ← swimReadByte d env 0x7f80
  swimWriteByte d env (UInt8.ofNat (csr ||| 0x4)) 0x7f80
  swimCmdInternal d env [0xf4, 0x05] []

/-- `stlink2_close` -/
def stlink2Close : Stlinkv2 Unit := stlink2CmdInternal d env [0xf4, 0x01] []

/-! ## Reading a range -/

/-- The loop of `stlink2_swim_read_range`, with the bytes from `buffer + i` on still to come.
Every chunk takes at least one byte, unless `read_buf_size` is 0: then the loop does not
end. -/
def stlink2ReadLoop : Nat → Nat → Nat → Nat → (Nat → Byte) → Stlinkv2 (Nat → Byte)
  | 0, _, _, remaining, buffer => if remaining = 0 then pure buffer else Drv.stop .endless
  | fuel + 1, i, start, remaining, buffer =>
    if remaining = 0 then pure buffer
    else do
      let size := if remaining > env.readBufSize then env.readBufSize else remaining
      swimCmdInternal d env
        (swimMemArgs 0x0b (HI size) (LO size) 0x00 (EX start) (HI start) (LO start)) []
      stlink2CmdInternal d env [0xf4, 0x0c] []
      let bs ← stlink2MsgRecv env size
      stlink2ReadLoop fuel (i + size) (u32 (start + size)) (remaining - size)
        (Image.storeAll buffer (Image.block i bs))

/-- `stlink2_swim_read_range`: the value returned and the contents of `buffer` then. -/
def stlink2SwimReadRange (buffer : Nat → Byte) (start length : Nat) :
    Stlinkv2 (Int × (Nat → Byte)) := do
  let buffer ← stlink2ReadLoop d env length 0 start length buffer
  pure (toInt32 length, buffer)

/-! ## Writing a range -/

/-- `if(device->regs.FLASH_NCR2 != 0) swim_write_byte(pgm, byte, device->regs.FLASH_NCR2)` -/
def swimWriteNcr2 (byte : Byte) : Stlinkv2 Unit :=
  if d.regs.flashNcr2 ≠ 0 then swimWriteByte d env byte d.regs.flashNcr2 else pure ()

/-- The keys for the memory. -/
def stlink2Unlock (memtype : Memtype) : Stlinkv2 Unit :=
  match memtype with
  | .flash => do
    swimWriteByte d env 0x56 d.regs.flashPukr
    swimWriteByte d env 0xae d.regs.flashPukr
  | .eeprom | .opt => do
    swimWriteByte d env 0xae d.regs.flashDukr
    swimWriteByte d env 0x56 d.regs.flashDukr
  | _ => pure ()

/-- The option byte `buffer[i]`, and the wait for it. -/
def stlink2OptByte (buffer : Nat → Byte) (start i : Nat) : Stlinkv2 Unit := do
  swimWriteByte d env (buffer i) (u32 (start + i))
  tryEop (swimReadByte d env d.regs.flashIapsr) .triesExceeded 5

/-- The option bytes, one by one. -/
def stlink2WriteOpt (buffer : Nat → Byte) (start length : Nat) : Stlinkv2 Unit := do
  swimWriteByte d env 0x80 d.regs.flashCr2
  swimWriteNcr2 d env 0x7F
  Drv.forFrom (stlink2OptByte d env buffer start) length 0

/-- The CPU is stalled and the mode is selected, where block programming is needed. -/
def stlink2EnterBlock (memtype : Memtype) (current : Nat → Byte) (i : Nat) : Stlinkv2 Unit :=
  if memtype.isBlock then do
    let csr ← swimReadByte d env d.regs.flashDmCsr2
    swimWriteByte d env (UInt8.ofNat (csr ||| 8)) d.regs.flashDmCsr2
    swimWriteByte d env (prgmode d current i) d.regs.flashCr2
    swimWriteNcr2 d env (~~~prgmode d current i)
  else pure ()

/-- The block itself. -/
def stlink2SendBlock (buffer : Nat → Byte) (start i : Nat) : Stlinkv2 Unit :=
  swimCmdInternal d env
    (swimMemArgs 0x0a (HI d.flashBlockSize) (LO d.flashBlockSize) (EH (u32 (start + i)))
      (EX (u32 (start + i))) (HI (u32 (start + i))) (LO (u32 (start + i))))
    (Image.slice buffer i d.flashBlockSize)

def stlink2WaitBlock (memtype : Memtype) : Stlinkv2 Unit :=
  if memtype.isBlock then waitEop (swimReadByte d env d.regs.flashIapsr) .writeProtected 5
  else pure ()

/-- The block at `buffer + i`, when it differs. -/
def stlink2WriteBlock (memtype : Memtype) (buffer current : Nat → Byte) (start i : Nat) :
    Stlinkv2 Unit :=
  if Image.slice current i d.flashBlockSize = Image.slice buffer i d.flashBlockSize then pure ()
  else do
    stlink2EnterBlock d env memtype current i
    stlink2SendBlock d env buffer start i
    stlink2WaitBlock d env memtype

/-- The blocks of the range. -/
def stlink2WriteBlocks (memtype : Memtype) (buffer : Nat → Byte) (start length : Nat) :
    Stlinkv2 Unit := do
  let (_, current) ← stlink2SwimReadRange d env env.stackCurrent start (roundedSize d length)
  Drv.forFrom (fun j => stlink2WriteBlock d env memtype
    (mergeTail buffer current length (roundedSize d length)) current start
    (j * d.flashBlockSize)) (blockRounds d length) 0

/-- `DUL` and `PUL` are reset. -/
def stlink2Lock (memtype : Memtype) : Stlinkv2 Unit :=
  if memtype = .flash ∨ memtype = .eeprom ∨ memtype = .opt then do
    let iapsr ← swimReadByte d env d.regs.flashIapsr
    swimWriteByte d env (UInt8.ofNat (iapsr &&& 0xfffffff5)) d.regs.flashIapsr
  else pure ()

/-- Option bytes or blocks. -/
def stlink2WriteData (memtype : Memtype) (buffer : Nat → Byte) (start length : Nat) :
    Stlinkv2 Unit :=
  if memtype = .opt then stlink2WriteOpt d env buffer start length
  else stlink2WriteBlocks d env memtype buffer start length

/-- `stlink2_swim_write_range` -/
def stlink2SwimWriteRange (buffer : Nat → Byte) (start length : Nat) (memtype : Memtype) :
    Stlinkv2 Int := do
  swimWriteByte d env 0x00 d.regs.clkCkdivr
  stlink2Unlock d env memtype
  stlink2WriteData d env memtype buffer start length
  stlink2Lock d env memtype
  pure (toInt32 length)

/-- `stlink2_swim_write_range` with a length that is negative as `int`, up to its first access
outside the `size` bytes at `buffer`. The option bytes go to the end of them; the stack has no room
for the blocks. -/
def stlink2WriteNegative (buffer : Nat → Byte) (start size : Nat) (memtype : Memtype) :
    Stlinkv2 Unit := do
  swimWriteByte d env 0x00 d.regs.clkCkdivr
  stlink2Unlock d env memtype
  if memtype = .opt then stlink2WriteOpt d env buffer start size else pure ()

end Commands

end Stm8Flash
