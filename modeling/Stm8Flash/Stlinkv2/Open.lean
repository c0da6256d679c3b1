import Stm8Flash.Stlinkv2.Effects
import Stm8Flash.Stlinkv2.Rounds

/-! # Opening an ST-Link V2

`stlink2_open` leaves the mode that the programmer is in, enters SWIM mode and stalls the CPU, and
switches to the high speed format when the target offers it. Of the target it reads and writes
`SWIM_CSR` only (`stlink2Open_effect`). What the programmer reports as the size of its buffer goes
into `read_buf_size` without a look at it (`Stlinkv2Env.opened`).
-/

namespace Stm8Flash

open Hex Word

/-- What the programmer answers to the commands of `stlink2_open`, as far as the code looks at
it. -/
structure Stlink2Hello where
  /-- the first of the two bytes that `STLINK_GET_CURRENT_MODE` gives -/
  mode : Byte
  /-- the two bytes that `SWIM_READBUFSIZE` gives -/
  bufSize₀ : Byte
  bufSize₁ : Byte

/-- The environment behind `stlink2_open`. -/
def Stlinkv2Env.opened (env : Stlinkv2Env) (hello : Stlink2Hello) : Stlinkv2Env :=
  { env with readBufSize := msgRecvInt16 hello.bufSize₀ hello.bufSize₁ }

section Open

variable (d : Stm8Device) (env : Stlinkv2Env)

/-- `msg_recv` of a reply that is not what the programmer has read from the target. -/
def stlink2MsgReply : Stlinkv2 Unit := stlink2MsgTransfer env

/-- `switch (buf[0])`: the modes that are left with a command of their own. -/
def stlink2LeaveMode (mode : Byte) : Stlinkv2 Unit :=
  if mode = 0x02 then stlink2CmdInternal d env [0xf2, 0x21] []
  else if mode = 0x04 ∨ mode = 0x00 ∨ mode = 0x01 then stlink2CmdInternal d env [0xf3, 0x07] []
  else pure ()

/-- The loop of `stlink2_high_speed`, with `retries` more rounds to come: `csr`. -/
def stlink2WaitHsit : Nat → Stlinkv2 Nat
  | 0 => swimReadByte d env 0x7f80
  | retries + 1 => do
    let csr ← swimReadByte d env 0x7f80
    if csr &&& 0x02 = 0 then stlink2WaitHsit retries else pure csr

/-- `stlink2_high_speed` -/
def stlink2HighSpeed : Stlinkv2 Unit := do
  let csr ← stlink2WaitHsit d env 10
  swimCmdInternal d env [0xf4, 0x06] []
  Drv.when (csr &&& 0x02 ≠ 0) do
    swimWriteByte d env (UInt8.ofNat (csr ||| 0x10)) 0x7f80
    swimCmdInternal d env [0xf4, 0x03, 0x01] []

/-- `stlink2_open`; `read_buf_size` is then that of `Stlinkv2Env.opened`. -/
def stlink2Open (hello : Stlink2Hello) : Stlinkv2 Bool := do
  stlink2CmdInternal d env [0xf1] []
  stlink2MsgReply env
  stlink2CmdInternal d env [0xf5] []
  stlink2MsgReply env
  stlink2LeaveMode d env hello.mode
  Drv.when (hello.mode ≠ 0x03) (stlink2CmdInternal d env [0xf4, 0x00] [])
  stlink2CmdInternal d env [0xf4, 0x0d] []
  stlink2MsgReply env
  stlink2CmdInternal d env [0xf4, 0x02, 0x01] []
  stlink2MsgReply env
  swimCmdInternal d env [0xf4, 0x07] []
  swimCmdInternal d env [0xf4, 0x04] []
  swimWriteByte d env 0xa1 0x7f80
  swimCmdInternal d env [0xf4, 0x08] []
  stlink2HighSpeed d env
  pure true

end Open

section Results

variable {d : Stm8Device} {env : Stlinkv2Env} {I : Target → Prop}

/-! ## What it does to the target -/

/-- A command that is not for SWIM does not reach the target. -/
theorem stlink2CmdInternal_other_effect {cmd : Byte} (hcmd : cmd ≠ 0xf4) (rest : List Byte) :
    Drv.Preserves (fun s => I s.target) (stlink2CmdInternal d env (cmd :: rest) []) := by
  refine stlink2CmdInternal_effect fun s hs => ?_
  have hop : (stlink2Packet (cmd :: rest) []).getD 0 0 = cmd := rfl
  unfold stlink2Receive
  rw [if_neg fun h => hcmd (hop.symm.trans h.1), if_neg fun h => hcmd (hop.symm.trans h.1)]
  exact hs

theorem stlink2HighSpeed_effect (hd : d.Sound) (hread : ReadClosed d I)
    (hses : PokeClosed d d.SessionReg I) :
    Drv.Preserves (fun s => I s.target) (stlink2HighSpeed d env) := by
  have hwait (retries : Nat) :
      Drv.Preserves (fun s => I s.target) (stlink2WaitHsit d env retries) := by
    induction retries with
    | zero => exact swimReadByte_effect hread _
    | succ retries ih =>
      exact (swimReadByte_effect hread _).bind fun csr =>
        Drv.Preserves.ite (fun _ => ih) fun _ => Drv.Preserves.pure _
  refine (hwait 10).bind fun csr => ?_
  refine Drv.Preserves.bind (swimCmdInternal_effect ?_) fun _ => Drv.Preserves.when ?_
  · exact stlink2Receive_other hread (by decide) _
  refine (swimWriteByte_reg_effect hd hses d.control_swimCsr (Or.inr rfl) _).bind fun _ => ?_
  exact swimCmdInternal_effect (stlink2Receive_other hread (by decide) _)

/-- What the reads and the registers of the session keep, `stlink2_open` keeps, whatever fails and
whatever the programmer answers. -/
theorem stlink2Open_effect (hd : d.Sound) (hread : ReadClosed d I)
    (hses : PokeClosed d d.SessionReg I) (hello : Stlink2Hello) :
    Drv.Preserves (fun s => I s.target) (stlink2Open d env hello) := by
  have hreply : Drv.Preserves (fun s => I s.target) (stlink2MsgReply env) :=
    stlink2MsgTransfer_target.preserves I
  have hcmd {cmd : Byte} (h : cmd ≠ 0x0a) (rest : List Byte) :
      Drv.Preserves (fun s => I s.target) (stlink2CmdInternal d env (0xf4 :: cmd :: rest) []) :=
    stlink2CmdInternal_effect (stlink2Receive_other hread h _)
  have hswim {cmd : Byte} (h : cmd ≠ 0x0a) :
      Drv.Preserves (fun s => I s.target) (swimCmdInternal d env [0xf4, cmd] []) :=
    swimCmdInternal_effect (stlink2Receive_other hread h _)
  refine (stlink2CmdInternal_other_effect (by decide) _).bind fun _ => hreply.bind fun _ => ?_
  refine (stlink2CmdInternal_other_effect (by decide) _).bind fun _ => hreply.bind fun _ => ?_
  refine Drv.Preserves.bind ?_ fun _ => ?_
  · -- the mode is left
    refine Drv.Preserves.ite (fun _ => ?_) fun _ => Drv.Preserves.ite (fun _ => ?_) fun _ => ?_
    · exact stlink2CmdInternal_other_effect (by decide) _
    · exact stlink2CmdInternal_other_effect (by decide) _
    · exact Drv.Preserves.pure ()
  refine (hcmd (by decide) _).when.bind fun _ => ?_
  refine (hcmd (by decide) _).bind fun _ => hreply.bind fun _ => ?_
  refine (hcmd (by decide) _).bind fun _ => hreply.bind fun _ => ?_
  refine (hswim (by decide)).bind fun _ => (hswim (by decide)).bind fun _ => ?_
  refine (swimWriteByte_reg_effect hd hses d.control_swimCsr (Or.inr rfl) _).bind fun _ => ?_
  refine (hswim (by decide)).bind fun _ => ?_
  exact (stlink2HighSpeed_effect hd hread hses).bind fun _ => Drv.Preserves.pure _

/-! ## Where nothing fails -/

end Results

end Stm8Flash
