import Stm8Flash.Programming

/-! # The ST-Link V1 back end

`stlink.c` from the command wrappers up to `stlink_swim_read_range` and
`stlink_swim_write_range`. Every command is a 31-byte packet; `sent` has the packets in order.
What the environment decides is a `StlinkEnv`: which transfers fail, what the programmer
answers to a status request, and what the buffers on the stack hold at first. Of the commands
of a session only the byte and block writes and the reads reach the memory of the target. The
`usleep` calls are not recorded.
-/

namespace Stm8Flash

open Hex Word

/-- The ways the functions of this back end end the program. -/
inductive StlinkError where
  /-- An `assert` does not hold. -/
  | assertion
  /-- No message: the program waits for a status with bit 0 clear that does not come. -/
  | noStatus
  /-- No message: a size that is negative as `int` is used as a length. -/
  | overrun
deriving DecidableEq, Repr

/-- What the environment decides; `k` counts the bulk transfers. -/
structure StlinkEnv where
  hw : Hardware
  /-- the transfer passes the `assert`s on it -/
  transferred : Nat → Bool
  /-- how many bytes fewer than asked for come in, where no `assert` looks at it -/
  missing : Nat → Nat
  /-- `csw.status` -/
  csw : Nat → Byte
  /-- the reply to a status request outside the waits -/
  status : Nat → List Byte
  /-- the replies to the requests of a wait -/
  waits : Nat → List (List Byte)
  /-- `buf` before a status reply -/
  stackBuf : Nat → List Byte

structure StlinkState where
  target : Target
  /-- what the programmer has read from the target -/
  readbuf : List Byte
  transfers : Nat
  sent : List (List Byte)
  /-- how often `Write error` was printed -/
  writeErrors : Nat

namespace StlinkState

def countTransfer (s : StlinkState) : StlinkState := { s with transfers := s.transfers + 1 }

def send (s : StlinkState) (p : List Byte) : StlinkState := { s with sent := s.sent ++ [p] }

def setTarget (s : StlinkState) (t : Target) : StlinkState := { s with target := t }

def setReadbuf (s : StlinkState) (bs : List Byte) : StlinkState := { s with readbuf := bs }

def writeError (s : StlinkState) : StlinkState := { s with writeErrors := s.writeErrors + 1 }

@[simp] theorem countTransfer_target (s : StlinkState) : s.countTransfer.target = s.target := rfl
@[simp] theorem countTransfer_sent (s : StlinkState) : s.countTransfer.sent = s.sent := rfl
@[simp] theorem countTransfer_writeErrors (s : StlinkState) :
    s.countTransfer.writeErrors = s.writeErrors := rfl
@[simp] theorem send_target (s : StlinkState) (p : List Byte) : (s.send p).target = s.target := rfl
@[simp] theorem send_sent (s : StlinkState) (p : List Byte) :
    (s.send p).sent = s.sent ++ [p] := rfl
@[simp] theorem send_writeErrors (s : StlinkState) (p : List Byte) :
    (s.send p).writeErrors = s.writeErrors := rfl
@[simp] theorem setTarget_target (s : StlinkState) (t : Target) : (s.setTarget t).target = t := rfl
@[simp] theorem setTarget_sent (s : StlinkState) (t : Target) :
    (s.setTarget t).sent = s.sent := rfl
@[simp] theorem setTarget_writeErrors (s : StlinkState) (t : Target) :
    (s.setTarget t).writeErrors = s.writeErrors := rfl
@[simp] theorem setReadbuf_target (s : StlinkState) (bs : List Byte) :
    (s.setReadbuf bs).target = s.target := rfl
@[simp] theorem setReadbuf_sent (s : StlinkState) (bs : List Byte) :
    (s.setReadbuf bs).sent = s.sent := rfl
@[simp] theorem setReadbuf_writeErrors (s : StlinkState) (bs : List Byte) :
    (s.setReadbuf bs).writeErrors = s.writeErrors := rfl
@[simp] theorem writeError_target (s : StlinkState) : s.writeError.target = s.target := rfl
@[simp] theorem writeError_sent (s : StlinkState) : s.writeError.sent = s.sent := rfl

end StlinkState

/-- A run of the functions of this back end. -/
abbrev Stlink (α : Type) : Type := Drv StlinkState StlinkError α

/-! ## Packets -/

/-- `scsi_usb_cbw`, without the fields that never change; `cb` has 16 bytes. -/
structure ScsiUsbCbw where
  transferLength : Nat
  flags : Byte
  cblength : Nat
  cb : List Byte

/-- `pack_int16` -/
def packInt16 (word : Nat) : List Byte := [UInt8.ofNat (HI word), UInt8.ofNat (LO word)]

/-- `pack_int32` -/
def packInt32 (word : Nat) : List Byte :=
  [UInt8.ofNat (EH word), UInt8.ofNat (EX word), UInt8.ofNat (HI word), UInt8.ofNat (LO word)]

/-- `pack_int32_le` -/
def packInt32Le (word : Nat) : List Byte :=
  [UInt8.ofNat (LO word), UInt8.ofNat (HI word), UInt8.ofNat (EX word), UInt8.ofNat (EH word)]

/-- `unpack_int16_le` -/
def unpackInt16Le (block : List Byte) : Nat :=
  256 * (block.getD 1 0).toNat + (block.getD 0 0).toNat

/-- `unpack_int32_le` -/
def unpackInt32Le (block : List Byte) : Nat :=
  16777216 * (block.getD 3 0).toNat + 65536 * (block.getD 2 0).toNat +
    256 * (block.getD 1 0).toNat + (block.getD 0 0).toNat

/-- `pack_usb_cbw`: the signature, the tag, the length, the flags, the LUN, the length of the
command and the command. -/
def packUsbCbw (cbw : ScsiUsbCbw) : List Byte :=
  packInt32 0x55534243 ++ packInt32 0x707ec281 ++ packInt32Le cbw.transferLength ++
    [cbw.flags, 0x00, UInt8.ofNat cbw.cblength] ++ cbw.cb

/-- A command: its bytes, and zeros up to 16. -/
def stlinkCb (args : List Byte) : List Byte := args ++ List.replicate (16 - args.length) 0

/-- The length that a memory command carries. -/
def stlinkLength (p : List Byte) : Nat := be16 (p.getD 17 0).toNat (p.getD 18 0).toNat

/-- The address that a memory command carries. -/
def stlinkAddr (p : List Byte) : Nat :=
  be32 (p.getD 19 0).toNat (p.getD 20 0).toNat (p.getD 21 0).toNat (p.getD 22 0).toNat

/-- The length of the data phase of a command. -/
def stlinkTransferLength (p : List Byte) : Nat :=
  be32 (p.getD 11 0).toNat (p.getD 10 0).toNat (p.getD 9 0).toNat (p.getD 8 0).toNat

/-- The packet is a SWIM command with the number `cmd`. -/
def isSwimCmd (cmd : Byte) (p : List Byte) : Bool := p.getD 15 0 == 0xf4 && p.getD 16 0 == cmd

/-- A command that reads memory into the programmer. -/
def isSwimRead (p : List Byte) : Bool := isSwimCmd 0x0b p

/-- A command that writes a block: the data go on after the packet. -/
def isBlockWrite (p : List Byte) : Bool := isSwimCmd 0x0a p && stlinkTransferLength p != 0

/-- A command that carries the address of a chunk. -/
def isRangeCmd (p : List Byte) : Bool := isSwimRead p || isBlockWrite p

/-- The reads of memory and the block writes among the packets sent. -/
def StlinkState.rangeCmds (s : StlinkState) : List (List Byte) := s.sent.filter isRangeCmd

/-- The programmer has got the packet `p` and the data `rest`. -/
def stlinkReceive (d : Stm8Device) (hw : Hardware) (p rest : List Byte) (s : StlinkState) :
    StlinkState :=
  if isSwimCmd 0x0a p then
    s.setTarget (s.target.write d (stlinkAddr p) ((p.drop 23 ++ rest).take (stlinkLength p)))
  else if isSwimRead p then
    (s.setReadbuf (s.target.read d hw (stlinkAddr p) (stlinkLength p))).setTarget
      (s.target.afterRead d (stlinkAddr p) (stlinkLength p))
  else s

/-! ## Commands -/

section Commands

variable (d : Stm8Device) (env : StlinkEnv)

/-- `libusb_bulk_transfer` and the `assert`s after it: the number of the transfer. -/
def stlinkTransfer : Stlink Nat := do
  let s ← Drv.state
  Drv.change fun s => s.countTransfer
  if env.transferred s.transfers then pure s.transfers else Drv.stop .assertion

/-- `stlink_send_cbw` -/
def stlinkSendCbw (cbw : ScsiUsbCbw) : Stlink Unit := do
  let _ ← stlinkTransfer env
  Drv.change fun s => s.send (packUsbCbw cbw)

/-- `stlink_read`: the bytes that come in, of those that the programmer has. -/
def stlinkRead (data : List Byte) (count : Nat) : Stlink (List Byte) := do
  let k ← stlinkTransfer env
  pure (data.take (count - env.missing k))

/-- `if(transfer_length)`: the data phase of a command. -/
def stlinkDataPhase (data : List Byte) (transferLength : Nat) : Stlink (List Byte) :=
  if transferLength ≠ 0 then stlinkRead env data transferLength else pure []

/-- `stlink_read_csw`: `csw.status`. -/
def stlinkReadCsw : Stlink Byte := do
  let k ← stlinkTransfer env
  pure (env.csw k)

/-- `stlink_cmd`, with what the programmer has to say in the data phase. No caller looks at
`csw.status`. -/
def stlinkCmd (transferLength : Nat) (flags : Byte) (args data : List Byte) :
    Stlink (List Byte) := do
  stlinkSendCbw env ⟨transferLength, flags, args.length, stlinkCb args⟩
  Drv.change fun s => stlinkReceive d env.hw
    (packUsbCbw ⟨transferLength, flags, args.length, stlinkCb args⟩) [] s
  let bytes ← stlinkDataPhase env data transferLength
  let _ ← stlinkReadCsw env
  pure bytes

/-- `buf` after the bytes of a reply came in. -/
def stlinkBuf (stack bytes : List Byte) : List Byte := bytes ++ stack.drop bytes.length

/-- `stlink_swim_get_status`, with the reply of the programmer. -/
def stlinkStatusReply (reply : List Byte) : Stlink Nat := do
  let s ← Drv.state
  let bytes ← stlinkCmd d env 4 0x80 [0xf4, 0x09, 0x01, 0x00, 0, 0, 0, 0, 0, 0] reply
  pure (unpackInt32Le (stlinkBuf (env.stackBuf s.transfers) bytes))

/-- `stlink_swim_get_status` -/
def stlinkSwimGetStatus : Stlink Nat := do
  let s ← Drv.state
  stlinkStatusReply d env (env.status s.transfers)

/-- The loop of `stlink_swim_wait`. -/
def stlinkWaitLoop : List (List Byte) → Stlink Nat
  | [] => Drv.stop .noStatus
  | reply :: replies => do
    let result ← stlinkStatusReply d env reply
    if result &&& 1 ≠ 0 then stlinkWaitLoop replies else pure result

/-- `stlink_swim_wait` -/
def stlinkSwimWait : Stlink Nat := do
  let s ← Drv.state
  stlinkWaitLoop d env (env.waits s.transfers)

/-- The command that writes a byte: only the lower 16 bits of the address are sent. -/
def stlinkByteArgs (byte : Byte) (start : Nat) : List Byte :=
  [0xf4, 0x0a, 0x00, 0x01, 0, 0] ++ packInt16 start ++ [byte, 0, 0, 0, 0, 0, 0, 0]

/-- One try of `stlink_swim_write_byte`: the write, and the status after it. -/
def stlinkTryByte (byte : Byte) (start : Nat) : Stlink Nat := do
  let _ ← stlinkCmd d env 0 0x00 (stlinkByteArgs byte start) []
  let s ← Drv.state
  let bytes ← stlinkCmd d env 4 0x80 ([0xf4, 0x09, 0x00, 0x01, 0, 0] ++ packInt16 start ++
    [byte, 0]) (env.status s.transfers)
  pure (unpackInt16Le (stlinkBuf (env.stackBuf s.transfers) bytes))

/-- The loop of `stlink_swim_write_byte`, with `tries` more tries to come. The `continue` on
`STLK_FLAG_BUFFER_FULL` goes to the condition of the loop, which asks for `STLK_FLAG_ERR`. -/
def stlinkWriteByteLoop (byte : Byte) (start : Nat) : Nat → Stlink Nat
  | 0 => stlinkTryByte d env byte start
  | tries + 1 => do
    let result ← stlinkTryByte d env byte start
    if result &&& 0x04 ≠ 0 then
      if result &&& 0x01 ≠ 0 then stlinkWriteByteLoop byte start tries else pure result
    else pure result

/-- `stlink_swim_write_byte` -/
def stlinkSwimWriteByte (byte : Byte) (start : Nat) : Stlink Nat :=
  stlinkWriteByteLoop d env byte start 4

/-! ## Sessions -/

/-- A command without data, and the status after it. -/
def stlinkSwimCmd (args : List Byte) : Stlink Unit := do
  let _ ← stlinkCmd d env 0 0x00 args []
  let _ ← stlinkSwimGetStatus d env
  pure ()

/-- `stlink_init_session` -/
def stlinkInitSession : Stlink Unit := do
  Drv.forEach (fun arg => stlinkSwimCmd d env [0xf4, arg, 0x01, 0, 0, 0, 0, 0, 0, 0])
    [0x07, 0x07, 0x08, 0x07, 0x04]
  let _ ← stlinkSwimWait d env
  stlinkSwimCmd d env [0xf4, 0x03, 0x00]
  stlinkSwimCmd d env [0xf4, 0x05, 0, 0, 0, 0, 0, 0, 0, 0]
  let _ ← stlinkSwimWriteByte d env 0xa0 0x7f80
  stlinkSwimCmd d env [0xf4, 0x08, 0x00, 0x01, 0, 0, 0x7f, 0x80, 0xa0, 0x00]
  stlinkSwimCmd d env [0xf4, 0x06, 0x00, 0x01, 0, 0, 0x7f, 0x99, 0xa0, 0x00]
  let _ ← stlinkSwimWriteByte d env 0xb0 0x7f80
  stlinkSwimCmd d env [0xf4, 0x03, 0x01]
  let _ ← stlinkSwimWriteByte d env 0xb4 0x7f80
  pure ()

/-- `stlink_finish_session` -/
def stlinkFinishSession : Stlink Unit := do
  let _ ← stlinkSwimWriteByte d env 0xb6 0x7f80
  stlinkSwimCmd d env [0xf4, 0x05, 0x00, 0x01, 0, 0, 0x7f, 0x80, 0xb6, 0x00]
  stlinkSwimCmd d env [0xf4, 0x07, 0x00, 0x01, 0, 0, 0x7f, 0x80, 0xb6, 0x00]
  stlinkSwimCmd d env [0xf4, 0x03, 0x01]

/-! ## Reading a range -/

/-- `STLK_READ_BUFFER_SIZE` -/
def stlkReadBufferSize : Nat := 6144

/-- How often the loop of `stlink_swim_read_range` runs its body. -/
def stlinkReadRounds (length : Nat) : Nat :=
  (length + stlkReadBufferSize - 1) / stlkReadBufferSize

/-- The packet that reads a chunk: only the lower 16 bits of the address are sent. -/
def stlinkReadArgs (cmd : Byte) (blockStart blockSize : Nat) : List Byte :=
  [0xf4, cmd] ++ packInt16 blockSize ++ [0, 0] ++ packInt16 blockStart ++ [0, 0]

/-- The chunk at `buffer + i`. -/
def stlinkReadChunk (start length i : Nat) (buffer : Nat → Byte) : Stlink (Nat → Byte) :=
  if length - i < 2147483648 then do
    let blockSize := if length - i > stlkReadBufferSize then stlkReadBufferSize else length - i
    let _ ← stlinkCmd d env 0 0x80 (stlinkReadArgs 0x0b (u32 (start + i)) blockSize) []
    let _ ← stlinkSwimWait d env
    let s ← Drv.state
    let bytes ←
      stlinkCmd d env blockSize 0x80 (stlinkReadArgs 0x0c (u32 (start + i)) blockSize) s.readbuf
    pure (Image.storeAll buffer (Image.block i bytes))
  else Drv.stop .overrun

/-- `stlink_swim_read_range`: the value returned and the contents of `buffer` then. -/
def stlinkSwimReadRange (buffer : Nat → Byte) (start length : Nat) :
    Stlink (Int × (Nat → Byte)) := do
  stlinkInitSession d env
  let _ ← stlinkSwimWriteByte d env 0x00 d.regs.clkCkdivr
  let buffer ← Drv.foldFrom
    (fun j buffer => stlinkReadChunk d env start length (j * stlkReadBufferSize) buffer)
    (stlinkReadRounds length) 0 buffer
  stlinkFinishSession d env
  pure (toInt32 length, buffer)

/-! ## Writing a range -/

/-- `memtype == FLASH || memtype == EEPROM || memtype == OPT` -/
def Memtype.isStored (memtype : Memtype) : Bool :=
  memtype = .flash || memtype = .eeprom || memtype = .opt

/-- `STLK_MAX_WRITE` -/
def stlkMaxWrite : Nat := 512

/-- The packet of a block write: the first bytes of the block are in it. -/
def stlinkBlockCbw (data : List Byte) (start length padding : Nat) : ScsiUsbCbw where
  transferLength := length + padding - 8 + padding
  flags := 0x00
  cblength := 0x10
  cb := stlinkCb ([0xf4, 0x0a] ++ packInt16 length ++ [0, 0] ++ packInt16 start ++
    List.replicate padding 0 ++ data.take (8 - padding))

/-- The bytes that follow the packet of a block write. -/
def stlinkBlockTail (data : List Byte) (length padding : Nat) : List Byte :=
  (data.drop (8 - padding)).take (length + padding - 8) ++ List.replicate padding 1

/-- `stlink_swim_write_block` -/
def stlinkSwimWriteBlock (data : List Byte) (start length padding : Nat) : Stlink Nat :=
  let length1 := 8 - padding
  let length2 := length + padding - 8
  if padding ≤ 1 ∧ length1 + length2 = length ∧ length1 + padding ≤ 8 ∧
      length2 < stlkMaxWrite - 6 ∧ length1 > 0 ∧ length2 > 0 then do
    stlinkSendCbw env (stlinkBlockCbw data start length padding)
    let _ ← stlinkTransfer env
    Drv.change fun s => stlinkReceive d env.hw
      (packUsbCbw (stlinkBlockCbw data start length padding))
      (stlinkBlockTail data length padding) s
    let csw ← stlinkReadCsw env
    if csw = 0 then stlinkSwimWait d env else Drv.stop .assertion
  else Drv.stop .assertion

/-- The keys for the memory, with `FLASH_IAPSR` written before and after. -/
def stlinkUnlock (memtype : Memtype) : Stlink Unit := do
  Drv.when memtype.isStored (stlinkSwimWriteByte d env 0x00 d.regs.flashIapsr)
  Drv.when (memtype = .flash) do
    let _ ← stlinkSwimWriteByte d env 0x56 d.regs.flashPukr
    stlinkSwimWriteByte d env 0xae d.regs.flashPukr
  Drv.when (memtype = .eeprom ∨ memtype = .opt) do
    let _ ← stlinkSwimWriteByte d env 0xae d.regs.flashDukr
    stlinkSwimWriteByte d env 0x56 d.regs.flashDukr
  Drv.when memtype.isStored (stlinkSwimWriteByte d env 0x56 d.regs.flashIapsr)

/-- Standard block programming, where it is needed. -/
def stlinkEnterBlock (memtype : Memtype) : Stlink Unit :=
  Drv.when memtype.isStored do
    let _ ← stlinkSwimWriteByte d env 0x01 d.regs.flashCr2
    Drv.when (d.regs.flashNcr2 ≠ 0) (stlinkSwimWriteByte d env 0xFE d.regs.flashNcr2)

/-- The block at `buffer + i`, with zeros after the end of the data. -/
def stlinkBlock (buffer : Nat → Byte) (length i : Nat) : List Byte :=
  let blockSize := if length - i > d.flashBlockSize then d.flashBlockSize else length - i
  Image.slice buffer i blockSize ++ List.replicate (d.flashBlockSize - blockSize) 0

/-- The block at `buffer + i` is written. -/
def stlinkWriteRound (memtype : Memtype) (buffer : Nat → Byte) (start length i : Nat) :
    Stlink Unit :=
  if length - i < 2147483648 then do
    stlinkEnterBlock d env memtype
    let result ← stlinkSwimWriteBlock d env (stlinkBlock d buffer length i) (u32 (start + i))
      d.flashBlockSize 0
    Drv.when (result &&& 0x01 ≠ 0) (Drv.change fun s => s.writeError)
  else Drv.stop .overrun

/-- `FLASH_IAPSR` is written once more. -/
def stlinkLock (memtype : Memtype) : Stlink Unit :=
  Drv.when memtype.isStored (stlinkSwimWriteByte d env 0x56 d.regs.flashIapsr)

/-- `stlink_swim_write_range` -/
def stlinkSwimWriteRange (buffer : Nat → Byte) (start length : Nat) (memtype : Memtype) :
    Stlink Int := do
  stlinkInitSession d env
  let _ ← stlinkSwimWriteByte d env 0x00 d.regs.clkCkdivr
  stlinkUnlock d env memtype
  Drv.forFrom (fun j => stlinkWriteRound d env memtype buffer start length
    (j * d.flashBlockSize)) (blockRounds d length) 0
  stlinkLock d env memtype
  stlinkFinishSession d env
  pure (toInt32 length)

/-- `stlink_swim_write_range` with a length that is negative as `int`, up to its first access outside
the buffers: the `memcpy` of the first block has this length. -/
def stlinkWriteNegative (memtype : Memtype) : Stlink Unit := do
  stlinkInitSession d env
  let _ ← stlinkSwimWriteByte d env 0x00 d.regs.clkCkdivr
  stlinkUnlock d env memtype

/-- `stlink_swim_srst` -/
def stlinkSwimSrst : Stlink Unit := do
  let _ ← stlinkCmd d env 0 0x80 [0xf4, 0x08, 0x00, 0x01, 0, 0, 0, 0, 0, 0] []
  let _ ← stlinkSwimGetStatus d env
  pure ()

end Commands

end Stm8Flash
