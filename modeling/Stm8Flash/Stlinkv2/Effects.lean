import Stm8Flash.Effects
import Stm8Flash.Stlinkv2.Range

/-! # What ST-Link V2 does to the target, however a run ends

An invariant of the target that reads keep is kept by `stlink2_swim_read_range`, in any
environment; one that the writes of a run keep as well is kept by `stlink2_swim_write_range`.
-/

namespace Stm8Flash

open Hex Word

section Effects

variable {d : Stm8Device} {env : Stlinkv2Env} {I : Target → Prop}

/-! ## Commands -/

theorem stlink2MsgTransfer_target :
    Drv.Keeps Stlinkv2State.target (stlink2MsgTransfer env) := by
  refine Drv.Keeps.state.bind fun s => ?_
  refine Drv.Keeps.bind (Drv.Keeps.change fun _ => rfl) fun _ => ?_
  exact Drv.Keeps.ite (Drv.Keeps.pure ()) (Drv.Keeps.stop _)

theorem stlink2MsgSend_target (data : List Byte) :
    Drv.Keeps Stlinkv2State.target (stlink2MsgSend env data) :=
  stlink2MsgTransfer_target.bind fun _ => Drv.Keeps.change fun _ => rfl

theorem stlink2MsgRecv_target (n : Nat) :
    Drv.Keeps Stlinkv2State.target (stlink2MsgRecv env n) := by
  refine Drv.Keeps.ite (Drv.Keeps.pure _) ?_
  refine stlink2MsgTransfer_target.bind fun _ => Drv.Keeps.state.bind fun s => ?_
  exact Drv.Keeps.ite (Drv.Keeps.stop _) (Drv.Keeps.pure _)

/-- A command that stops has not reached the target. -/
theorem stlink2CmdInternal_effect {args buf : List Byte}
    (h : ∀ s : Stlinkv2State, I s.target →
      I (stlink2Receive d env.hw (stlink2Packet args buf) (stlink2Rest args buf) s).target) :
    Drv.Preserves (fun s => I s.target) (stlink2CmdInternal d env args buf) := by
  have hsend (data : List Byte) : Drv.Preserves (fun s => I s.target) (stlink2MsgSend env data) :=
    (stlink2MsgSend_target data).preserves I
  refine (hsend _).bind fun _ => ?_
  refine Drv.Preserves.bind ?_ fun _ => Drv.Preserves.change h
  exact Drv.Preserves.ite (fun _ => Drv.Preserves.pure ()) fun _ => hsend _

theorem swimCmdInternal_effect {args buf : List Byte}
    (h : ∀ s : Stlinkv2State, I s.target →
      I (stlink2Receive d env.hw (stlink2Packet args buf) (stlink2Rest args buf) s).target) :
    Drv.Preserves (fun s => I s.target) (swimCmdInternal d env args buf) := by
  refine (stlink2CmdInternal_effect h).bind fun _ => Drv.Preserves.state.bind fun s => ?_
  refine Drv.Preserves.bind (Drv.Preserves.change fun _ ht => ht) fun _ => ?_
  rcases swimPoll (env.stackStatus s.swimCmds) 0 (env.replies s.swimCmds) with e | _
  · exact Drv.Preserves.stop e
  · exact Drv.Preserves.pure ()

/-- A command that is not `SWIM_WRITEMEM` reads at most. -/
theorem stlink2Receive_other (hread : ReadClosed d I) {cmd : Byte} (hcmd : cmd ≠ 0x0a)
    (rest : List Byte) (s : Stlinkv2State) (hs : I s.target) :
    I (stlink2Receive d env.hw (stlink2Packet (0xf4 :: cmd :: rest) [])
      (stlink2Rest (0xf4 :: cmd :: rest) []) s).target := by
  have hop : (stlink2Packet (0xf4 :: cmd :: rest) []).getD 1 0 = cmd := rfl
  unfold stlink2Receive
  rw [if_neg fun h => hcmd (hop.symm.trans h.2)]
  split
  · exact hread _ _ _ hs
  · exact hs

/-- `SWIM_WRITEMEM` writes its data to its address. -/
theorem stlink2Receive_write {h l a₃ a₂ a₁ a₀ : Nat} {data : List Byte} (hh : h < 256)
    (hl : l < 256) (hlen : be16 h l = data.length) (h₃ : a₃ < 256) (h₂ : a₂ < 256) (h₁ : a₁ < 256)
    (h₀ : a₀ < 256) (hw : Hardware) (s : Stlinkv2State) :
    (stlink2Receive d hw (stlink2Packet (swimMemArgs 0x0a h l a₃ a₂ a₁ a₀) data)
      (stlink2Rest (swimMemArgs 0x0a h l a₃ a₂ a₁ a₀) data) s).target =
        s.target.write d (be32 a₃ a₂ a₁ a₀) data := by
  unfold stlink2Receive
  rw [if_pos (stlink2Packet_opcode 0x0a h l a₃ a₂ a₁ a₀ data),
    swimAddr_mem _ _ _ _ _ _ _ _ h₃ h₂ h₁ h₀, swimLength_mem _ _ _ _ _ _ _ _ hh hl, hlen,
    stlink2Packet_data, Stlinkv2State.setTarget_target]

/-- The packet of `swim_write_byte`. -/
theorem stlink2Receive_byte (hd : d.Sound) {a : Nat} (ha : a < 16777216) (v : Byte)
    (hw : Hardware) (s : Stlinkv2State) :
    (stlink2Receive d hw
      (stlink2Packet (swimMemArgs 0x0a 0x00 0x01 0x00 (EX a) (HI a) (LO a)) [v])
      (stlink2Rest (swimMemArgs 0x0a 0x00 0x01 0x00 (EX a) (HI a) (LO a)) [v]) s).target =
        s.target.poke d a v := by
  rw [stlink2Receive_write (by decide) (by decide) rfl (by decide) (EX_lt a) (HI_lt a) (LO_lt a),
    be32_bytes24 ha, Target.write_one hd.one_lt]

theorem swimWriteByte_effect (hd : d.Sound) {a : Nat} (ha : a < 16777216) {v : Byte}
    (h : ∀ t, I t → I (t.poke d a v)) :
    Drv.Preserves (fun s => I s.target) (swimWriteByte d env v a) := by
  have hsame : swimWriteByte d env v a = swimCmdInternal d env
      (swimMemArgs 0x0a 0x00 0x01 0x00 (EX a) (HI a) (LO a)) [v] := rfl
  rw [hsame]
  refine swimCmdInternal_effect fun s hs => ?_
  rw [stlink2Receive_byte hd ha v]
  exact h _ hs

theorem swimWriteByte_reg_effect (hd : d.Sound) {R : Nat → Prop} (hpoke : PokeClosed d R I)
    {a : Nat} (ha : d.IsControl a) (hR : R a) (v : Byte) :
    Drv.Preserves (fun s => I s.target) (swimWriteByte d env v a) := by
  have hlt := hd.control_lt ha
  exact swimWriteByte_effect hd (by omega) fun t ht => hpoke t a v hR ht

theorem swimReadByte_effect (hread : ReadClosed d I) (a : Nat) :
    Drv.Preserves (fun s => I s.target) (swimReadByte d env a) := by
  refine Drv.Preserves.bind (swimCmdInternal_effect ?_) fun _ => ?_
  · exact stlink2Receive_other hread (show (0x0b : Byte) ≠ 0x0a by decide) _
  refine Drv.Preserves.bind (stlink2CmdInternal_effect ?_) fun _ => ?_
  · exact stlink2Receive_other hread (by decide) _
  exact ((stlink2MsgRecv_target 1).preserves I).bind fun _ => Drv.Preserves.pure _

/-! ## Reading, reset and close -/

theorem stlink2SwimReadRange_effect (hread : ReadClosed d I) (buffer : Nat → Byte)
    (start length : Nat) :
    Drv.Preserves (fun s => I s.target) (stlink2SwimReadRange d env buffer start length) := by
  have hloop : ∀ fuel i start remaining buffer,
      Drv.Preserves (fun s => I s.target)
        (stlink2ReadLoop d env fuel i start remaining buffer) := by
    intro fuel
    induction fuel with
    | zero =>
      intro i start remaining buffer
      exact Drv.Preserves.ite (fun _ => Drv.Preserves.pure _) fun _ => Drv.Preserves.stop _
    | succ fuel ih =>
      intro i start remaining buffer
      refine Drv.Preserves.ite (fun _ => Drv.Preserves.pure _) fun _ => ?_
      refine Drv.Preserves.bind (swimCmdInternal_effect ?_) fun _ => ?_
      · exact stlink2Receive_other hread (show (0x0b : Byte) ≠ 0x0a by decide) _
      refine Drv.Preserves.bind (stlink2CmdInternal_effect ?_) fun _ => ?_
      · exact stlink2Receive_other hread (by decide) _
      exact ((stlink2MsgRecv_target _).preserves I).bind fun _ => ih _ _ _ _
  exact (hloop length 0 start length buffer).bind fun _ => Drv.Preserves.pure _

theorem stlink2Srst_effect (hd : d.Sound) (hread : ReadClosed d I)
    (hses : PokeClosed d d.SessionReg I) :
    Drv.Preserves (fun s => I s.target) (stlink2Srst d env) := by
  refine (swimReadByte_effect hread _).bind fun csr => ?_
  refine (swimWriteByte_reg_effect hd hses d.control_swimCsr (Or.inr rfl) _).bind fun _ => ?_
  exact swimCmdInternal_effect (stlink2Receive_other hread (by decide) _)

theorem stlink2Close_effect (hread : ReadClosed d I) :
    Drv.Preserves (fun s => I s.target) (stlink2Close d env) :=
  stlink2CmdInternal_effect (stlink2Receive_other hread (by decide) _)

/-! ## Writing -/

/-- A write to a register that does not select the mode. -/
theorem swimWriteByte_modeFree (hd : d.Sound) (hpoke : PokeClosed d d.ModeFree I) {a : Nat}
    (ha : d.ModeFree a) (v : Byte) :
    Drv.Preserves (fun s => I s.target) (swimWriteByte d env v a) :=
  swimWriteByte_reg_effect hd hpoke ha.1 ha v

theorem swimWriteNcr2_effect (hd : d.Sound) (hpoke : PokeClosed d d.ModeFree I) (v : Byte) :
    Drv.Preserves (fun s => I s.target) (swimWriteNcr2 d env v) := by
  rcases hd.ne_cr2 with ⟨-, -, -, -, hncr2, -⟩
  refine Drv.Preserves.ite (fun h => ?_) fun _ => Drv.Preserves.pure ()
  exact swimWriteByte_modeFree hd hpoke ⟨d.control_flashNcr2 h, hncr2⟩ v

theorem stlink2Unlock_effect (hd : d.Sound) (hpoke : PokeClosed d d.ModeFree I)
    (memtype : Memtype) : Drv.Preserves (fun s => I s.target) (stlink2Unlock d env memtype) := by
  rcases hd.ne_cr2 with ⟨-, hpukr, hdukr, -⟩
  have hflash (v : Byte) : Drv.Preserves (fun s => I s.target)
      (swimWriteByte d env v d.regs.flashPukr) :=
    swimWriteByte_modeFree hd hpoke ⟨d.control_flashPukr, hpukr⟩ v
  have hdata (v : Byte) : Drv.Preserves (fun s => I s.target)
      (swimWriteByte d env v d.regs.flashDukr) :=
    swimWriteByte_modeFree hd hpoke ⟨d.control_flashDukr, hdukr⟩ v
  cases memtype with
  | unknown => exact Drv.Preserves.pure ()
  | ram => exact Drv.Preserves.pure ()
  | eeprom => exact (hdata _).bind fun _ => hdata _
  | flash => exact (hflash _).bind fun _ => hflash _
  | opt => exact (hdata _).bind fun _ => hdata _

theorem stlink2Lock_effect (hd : d.Sound) (hread : ReadClosed d I)
    (hpoke : PokeClosed d d.ModeFree I) (memtype : Memtype) :
    Drv.Preserves (fun s => I s.target) (stlink2Lock d env memtype) := by
  rcases hd.ne_cr2 with ⟨-, -, -, hiapsr, -⟩
  refine Drv.Preserves.ite (fun _ => ?_) fun _ => Drv.Preserves.pure ()
  exact (swimReadByte_effect hread _).bind fun _ =>
    swimWriteByte_modeFree hd hpoke ⟨d.control_flashIapsr, hiapsr⟩ _

theorem stlink2EnterBlock_effect (hd : d.Sound) (hread : ReadClosed d I)
    (hpoke : PokeClosed d d.IsControl I) (memtype : Memtype) (current : Nat → Byte) (i : Nat) :
    Drv.Preserves (fun s => I s.target) (stlink2EnterBlock d env memtype current i) := by
  refine Drv.Preserves.ite (fun _ => ?_) fun _ => Drv.Preserves.pure ()
  refine (swimReadByte_effect hread _).bind fun _ => ?_
  have hdm := d.control_flashDmCsr2
  refine (swimWriteByte_reg_effect hd hpoke hdm hdm _).bind fun _ => ?_
  have hcr2 := d.control_flashCr2
  exact (swimWriteByte_reg_effect hd hpoke hcr2 hcr2 _).bind fun _ =>
    swimWriteNcr2_effect hd (hpoke.mono fun _ => And.left) _

/-- The packet of a block. -/
theorem stlink2Receive_block (hd : d.Sound) (buffer : Nat → Byte) {start i : Nat}
    (hlt : start + i < 4294967296) (hw : Hardware) (s : Stlinkv2State) :
    (stlink2Receive d hw
      (stlink2Packet (swimMemArgs 0x0a (HI d.flashBlockSize) (LO d.flashBlockSize) (EH (start + i))
        (EX (start + i)) (HI (start + i)) (LO (start + i))) (Image.slice buffer i d.flashBlockSize))
      (stlink2Rest (swimMemArgs 0x0a (HI d.flashBlockSize) (LO d.flashBlockSize) (EH (start + i))
        (EX (start + i)) (HI (start + i)) (LO (start + i))) (Image.slice buffer i d.flashBlockSize))
      s).target = s.target.write d (start + i) (Image.slice buffer i d.flashBlockSize) := by
  have hlen : be16 (HI d.flashBlockSize) (LO d.flashBlockSize) =
      (Image.slice buffer i d.flashBlockSize).length := by
    rw [be16_bytes hd.block_lt, Image.slice_length]
  rw [stlink2Receive_write (HI_lt _) (LO_lt _) hlen (EH_lt _) (EX_lt _) (HI_lt _) (LO_lt _),
    be32_bytes hlt]

theorem stlink2SendBlock_effect (hd : d.Sound) {buffer : Nat → Byte} {start i : Nat}
    (hlt : start + i < 4294967296)
    (h : ∀ t, I t → I (t.write d (start + i) (Image.slice buffer i d.flashBlockSize))) :
    Drv.Preserves (fun s => I s.target) (stlink2SendBlock d env buffer start i) := by
  have haddr : u32 (start + i) = start + i := u32_of_lt hlt
  unfold stlink2SendBlock
  rw [haddr]
  refine swimCmdInternal_effect fun s hs => ?_
  rw [stlink2Receive_block hd buffer hlt]
  exact h _ hs

theorem stlink2WaitBlock_effect (hread : ReadClosed d I) (memtype : Memtype) :
    Drv.Preserves (fun s => I s.target) (stlink2WaitBlock d env memtype) :=
  Drv.Preserves.ite (fun _ => waitEop_preserves (swimReadByte_effect hread _) _ _)
    fun _ => Drv.Preserves.pure ()

/-- Option bytes. -/
theorem stlink2WriteOpt_effect (hd : d.Sound) (hread : ReadClosed d I)
    (hpoke : PokeClosed d d.IsControl I) {start length : Nat} (hwrite : WriteClosed d start length I)
    (hlim : start + length ≤ 16777216) (buffer : Nat → Byte) :
    Drv.Preserves (fun s => I s.target) (stlink2WriteOpt d env buffer start length) := by
  have hcr2 := d.control_flashCr2
  refine (swimWriteByte_reg_effect hd hpoke hcr2 hcr2 _).bind fun _ => ?_
  refine (swimWriteNcr2_effect hd (hpoke.mono fun _ => And.left) _).bind fun _ => ?_
  refine Drv.Preserves.forFrom _ fun j _ hj => ?_
  have haddr : u32 (start + j) = start + j := u32_of_lt (by omega)
  unfold stlink2OptByte
  rw [haddr]
  refine Drv.Preserves.bind (swimWriteByte_effect hd (by omega) fun t ht => ?_) fun _ =>
    tryEop_preserves (swimReadByte_effect hread _) _ _
  rw [← Target.write_one hd.one_lt]
  exact hwrite t _ _ (by omega) (by rw [List.length_singleton]; omega) ht

/-- What the registers, the reads and the blocks of the range keep, `stlink2_swim_write_range`
keeps. -/
theorem stlink2SwimWriteRange_effect (hd : d.Sound) (hread : ReadClosed d I)
    (hpoke : PokeClosed d d.IsControl I) {start length : Nat}
    (hwrite : WriteClosed d start (blockRounds d length * d.flashBlockSize) I)
    (hlim : start + blockRounds d length * d.flashBlockSize ≤ 16777216) (memtype : Memtype)
    (buffer : Nat → Byte) :
    Drv.Preserves (fun s => I s.target)
      (stlink2SwimWriteRange d env buffer start length memtype) := by
  have hle := length_le_rounds hd length
  have hckdivr := d.control_clkCkdivr
  have hfree : PokeClosed d d.ModeFree I := hpoke.mono fun _ => And.left
  refine (swimWriteByte_reg_effect hd hpoke hckdivr hckdivr _).bind fun _ => ?_
  refine (stlink2Unlock_effect hd hfree memtype).bind fun _ => ?_
  refine Drv.Preserves.bind ?_ fun _ =>
    (stlink2Lock_effect hd hread hfree memtype).bind fun _ => Drv.Preserves.pure _
  refine Drv.Preserves.ite (fun _ => ?_) fun _ => ?_
  · exact stlink2WriteOpt_effect hd hread hpoke (hwrite.mono hle) (by omega) buffer
  · -- blocks
    refine (stlink2SwimReadRange_effect hread _ _ _).bind fun r => ?_
    refine Drv.Preserves.forFrom _ fun j _ hj => ?_
    have hin := round_in_range (show j < blockRounds d length by omega)
    refine Drv.Preserves.ite (fun _ => Drv.Preserves.pure ()) fun _ => ?_
    refine (stlink2EnterBlock_effect hd hread hpoke memtype _ _).bind fun _ => ?_
    refine Drv.Preserves.bind (stlink2SendBlock_effect hd (by omega) fun t ht => ?_) fun _ =>
      stlink2WaitBlock_effect hread memtype
    exact hwrite t _ _ (by omega) (by rw [Image.slice_length]; omega) ht

theorem stlink2WriteNegative_effect (hd : d.Sound) (hread : ReadClosed d I)
    (hpoke : PokeClosed d d.IsControl I) {start size : Nat} (hwrite : WriteClosed d start size I)
    (hlim : start + size ≤ 16777216) (memtype : Memtype) (buffer : Nat → Byte) :
    Drv.Preserves (fun s => I s.target)
      (stlink2WriteNegative d env buffer start size memtype) := by
  have hckdivr := d.control_clkCkdivr
  refine (swimWriteByte_reg_effect hd hpoke hckdivr hckdivr _).bind fun _ => ?_
  refine (stlink2Unlock_effect hd (hpoke.mono fun _ => And.left) memtype).bind fun _ => ?_
  exact Drv.Preserves.ite (fun _ => stlink2WriteOpt_effect hd hread hpoke hwrite hlim buffer)
    fun _ => Drv.Preserves.pure ()

/-! ## Where nothing fails -/

theorem stlink2Srst_returns (hd : d.Sound) (hok : env.NoFailure) :
    Drv.Returns (stlink2Srst d env) := by
  intro s
  have hcsr := hok.total (@swimReadByte_spec d env s.target 0x7f80 (by decide))
  rcases hcsr.returns rfl with ⟨csr, t, hread, -⟩
  have hset := hok.total (@swimWriteByte_spec d env t.target hd.one_lt 0x7f80 (by decide)
    (UInt8.ofNat (csr ||| 0x4)))
  rcases hset.returns rfl with ⟨_, u, hwrite, -⟩
  rcases (hok.total (@swimCmdInternal_spec d env u.target u.readbuf [0xf4, 0x05] [])).returns
    ⟨rfl, rfl⟩ with ⟨_, w, hreset, -⟩
  refine ⟨(), w, ?_⟩
  unfold stlink2Srst
  rw [Drv.bind_ok hread, Drv.bind_ok hwrite, hreset]

end Effects

end Stm8Flash
