import Stm8Flash.Stlinkv2.Transfers

/-! # The addresses that ST-Link V2 packets write to

Whatever the environment does, a run of `stlink2_swim_write_range` for RAM, EEPROM or flash
sends no `SWIM_WRITEMEM` except for control registers and for the blocks of its rounds
(`stlink2SwimWriteRange_sends`).
-/

namespace Stm8Flash

open Hex Word

/-- The rounds of `stlink2_swim_write_range` for RAM, EEPROM and flash program the address
`x`. -/
def Stlink2Programs (d : Stm8Device) (start length x : Nat) : Prop :=
  ∃ j < blockRounds d length, u32 (start + j * d.flashBlockSize) ≤ x ∧
    x < u32 (start + j * d.flashBlockSize) + d.flashBlockSize

/-- A packet that writes to memory, writes to addresses with `P` only. -/
def WritesOnly (P : Nat → Prop) (p : List Byte) : Prop :=
  p.length = 16 → p.getD 0 0 = 0xf4 → p.getD 1 0 = 0x0a →
    ∀ x, swimAddr p ≤ x → x < swimAddr p + swimLength p → P x

/-- What was sent so far writes to addresses with `P` only. -/
def Stlinkv2State.SentOnly (P : Nat → Prop) (s : Stlinkv2State) : Prop :=
  ∀ p ∈ s.sent, WritesOnly P p

section Sends

variable {d : Stm8Device} {env : Stlinkv2Env} {P : Nat → Prop}

/-! ## Packets -/

theorem writesOnly_of_length {p : List Byte} (h : p.length ≠ 16) : WritesOnly P p :=
  fun hlen => absurd hlen h

/-- Another command does not write. -/
theorem writesOnly_other {cmd : Byte} (hcmd : cmd ≠ 0x0a) (rest buf : List Byte) :
    WritesOnly P (stlink2Packet (0xf4 :: cmd :: rest) buf) := by
  intro _ _ hwrite
  exact absurd hwrite hcmd

theorem writesOnly_writeMem {h l a₃ a₂ a₁ a₀ addr n : Nat} (hh : h < 256) (hl : l < 256)
    (hlen : be16 h l = n) (h₃ : a₃ < 256) (h₂ : a₂ < 256) (h₁ : a₁ < 256) (h₀ : a₀ < 256)
    (haddr : be32 a₃ a₂ a₁ a₀ = addr) (hP : ∀ x, addr ≤ x → x < addr + n → P x)
    (data : List Byte) : WritesOnly P (stlink2Packet (swimMemArgs 0x0a h l a₃ a₂ a₁ a₀) data) := by
  intro _ _ _ x hlow hhigh
  rw [swimAddr_mem _ _ _ _ _ _ _ _ h₃ h₂ h₁ h₀, haddr] at hlow hhigh
  rw [swimLength_mem _ _ _ _ _ _ _ _ hh hl, hlen] at hhigh
  exact hP x hlow hhigh

/-! ## Commands -/

theorem stlink2MsgTransfer_sends :
    Drv.Preserves (Stlinkv2State.SentOnly P) (stlink2MsgTransfer env) := by
  refine Drv.Preserves.state.bind fun s => ?_
  refine Drv.Preserves.bind (Drv.Preserves.change fun _ ht => ht) fun _ => ?_
  exact Drv.Preserves.ite (fun _ => Drv.Preserves.pure ()) fun _ => Drv.Preserves.stop _

theorem stlink2MsgSend_sends {data : List Byte} (h : WritesOnly P data) :
    Drv.Preserves (Stlinkv2State.SentOnly P) (stlink2MsgSend env data) := by
  refine stlink2MsgTransfer_sends.bind fun _ => Drv.Preserves.change fun s hs => ?_
  intro p hp
  rcases List.mem_append.mp hp with hp | hp
  · exact hs p hp
  · rw [List.mem_singleton.mp hp]
    exact h

theorem stlink2MsgRecv_sends (n : Nat) :
    Drv.Preserves (Stlinkv2State.SentOnly P) (stlink2MsgRecv env n) := by
  refine Drv.Preserves.ite (fun _ => Drv.Preserves.pure _) fun _ => ?_
  refine stlink2MsgTransfer_sends.bind fun _ => Drv.Preserves.state.bind fun s => ?_
  exact Drv.Preserves.ite (fun _ => Drv.Preserves.stop _) fun _ => Drv.Preserves.pure _

theorem stlink2CmdInternal_sends {args buf : List Byte}
    (hpacket : WritesOnly P (stlink2Packet args buf)) (hrest : WritesOnly P (stlink2Rest args buf)) :
    Drv.Preserves (Stlinkv2State.SentOnly P) (stlink2CmdInternal d env args buf) := by
  refine (stlink2MsgSend_sends hpacket).bind fun _ => ?_
  refine Drv.Preserves.bind ?_ fun _ => Drv.Preserves.change fun s hs => ?_
  · exact Drv.Preserves.ite (fun _ => Drv.Preserves.pure ()) fun _ => stlink2MsgSend_sends hrest
  · unfold Stlinkv2State.SentOnly
    rw [stlink2Receive_sent]
    exact hs

theorem swimCmdInternal_sends {args buf : List Byte}
    (hpacket : WritesOnly P (stlink2Packet args buf)) (hrest : WritesOnly P (stlink2Rest args buf)) :
    Drv.Preserves (Stlinkv2State.SentOnly P) (swimCmdInternal d env args buf) := by
  refine (stlink2CmdInternal_sends hpacket hrest).bind fun _ => ?_
  refine Drv.Preserves.state.bind fun s => ?_
  refine Drv.Preserves.bind (Drv.Preserves.change fun _ ht => ht) fun _ => ?_
  rcases swimPoll (env.stackStatus s.swimCmds) 0 (env.replies s.swimCmds) with e | _
  · exact Drv.Preserves.stop e
  · exact Drv.Preserves.pure ()

/-- A command without data that is not `SWIM_WRITEMEM`. -/
theorem swimCmdInternal_other_sends {cmd : Byte} (hcmd : cmd ≠ 0x0a) (rest : List Byte) :
    Drv.Preserves (Stlinkv2State.SentOnly P) (swimCmdInternal d env (0xf4 :: cmd :: rest) []) :=
  swimCmdInternal_sends (writesOnly_other hcmd rest []) (writesOnly_of_length (by simp [stlink2Rest]))

theorem stlink2CmdInternal_other_sends {cmd : Byte} (hcmd : cmd ≠ 0x0a) (rest : List Byte) :
    Drv.Preserves (Stlinkv2State.SentOnly P)
      (stlink2CmdInternal d env (0xf4 :: cmd :: rest) []) :=
  stlink2CmdInternal_sends (writesOnly_other hcmd rest [])
    (writesOnly_of_length (by simp [stlink2Rest]))

theorem swimWriteByte_sends {a : Nat} (ha : a < 16777216) (hP : P a) (v : Byte) :
    Drv.Preserves (Stlinkv2State.SentOnly P) (swimWriteByte d env v a) := by
  have hsame : swimWriteByte d env v a = swimCmdInternal d env
      (swimMemArgs 0x0a 0x00 0x01 0x00 (EX a) (HI a) (LO a)) [v] := rfl
  rw [hsame]
  refine swimCmdInternal_sends ?_ (writesOnly_of_length (by simp [stlink2Rest, swimMemArgs]))
  refine writesOnly_writeMem (by decide) (by decide) (show be16 0x00 0x01 = 1 from rfl) (by decide)
    (EX_lt a) (HI_lt a) (LO_lt a) (be32_bytes24 ha) (fun x hlow hhigh => ?_) [v]
  have hx : x = a := by omega
  rw [hx]
  exact hP

theorem swimReadByte_sends (a : Nat) :
    Drv.Preserves (Stlinkv2State.SentOnly P) (swimReadByte d env a) := by
  refine Drv.Preserves.bind (swimCmdInternal_other_sends (by decide) _) fun _ => ?_
  refine Drv.Preserves.bind (stlink2CmdInternal_other_sends (by decide) _) fun _ => ?_
  exact (stlink2MsgRecv_sends 1).bind fun _ => Drv.Preserves.pure _

/-! ## Ranges -/

theorem stlink2SwimReadRange_sends (buffer : Nat → Byte) (start length : Nat) :
    Drv.Preserves (Stlinkv2State.SentOnly P) (stlink2SwimReadRange d env buffer start length) := by
  have hloop : ∀ fuel i start remaining buffer,
      Drv.Preserves (Stlinkv2State.SentOnly P)
        (stlink2ReadLoop d env fuel i start remaining buffer) := by
    intro fuel
    induction fuel with
    | zero =>
      intro i start remaining buffer
      exact Drv.Preserves.ite (fun _ => Drv.Preserves.pure _) fun _ => Drv.Preserves.stop _
    | succ fuel ih =>
      intro i start remaining buffer
      refine Drv.Preserves.ite (fun _ => Drv.Preserves.pure _) fun _ => ?_
      refine Drv.Preserves.bind (swimCmdInternal_other_sends (by decide) _) fun _ => ?_
      refine Drv.Preserves.bind (stlink2CmdInternal_other_sends (by decide) _) fun _ => ?_
      exact (stlink2MsgRecv_sends _).bind fun _ => ih _ _ _ _
  exact (hloop length 0 start length buffer).bind fun _ => Drv.Preserves.pure _

/-! ## Programming -/

section Programming

variable (hd : d.Sound) (hctl : ∀ a, d.IsControl a → P a)

include hd hctl

/-- A control register is one of the addresses that are written to. -/
theorem swimWriteByte_control_sends {a : Nat} (ha : d.IsControl a) (v : Byte) :
    Drv.Preserves (Stlinkv2State.SentOnly P) (swimWriteByte d env v a) := by
  have hlt := hd.control_lt ha
  exact swimWriteByte_sends (by omega) (hctl a ha) v

theorem stlink2Unlock_sends (memtype : Memtype) :
    Drv.Preserves (Stlinkv2State.SentOnly P) (stlink2Unlock d env memtype) := by
  have hwrite := fun a ha v => @swimWriteByte_control_sends d env P hd hctl a ha v
  cases memtype with
  | unknown => exact Drv.Preserves.pure ()
  | ram => exact Drv.Preserves.pure ()
  | eeprom =>
    exact (hwrite _ d.control_flashDukr _).bind fun _ => hwrite _ d.control_flashDukr _
  | flash =>
    exact (hwrite _ d.control_flashPukr _).bind fun _ => hwrite _ d.control_flashPukr _
  | opt =>
    exact (hwrite _ d.control_flashDukr _).bind fun _ => hwrite _ d.control_flashDukr _

theorem swimWriteNcr2_sends (v : Byte) :
    Drv.Preserves (Stlinkv2State.SentOnly P) (swimWriteNcr2 d env v) :=
  Drv.Preserves.ite
    (fun h => swimWriteByte_control_sends hd hctl (d.control_flashNcr2 h) v)
    fun _ => Drv.Preserves.pure ()

theorem stlink2EnterBlock_sends (memtype : Memtype) (current : Nat → Byte) (i : Nat) :
    Drv.Preserves (Stlinkv2State.SentOnly P) (stlink2EnterBlock d env memtype current i) := by
  have hwrite := fun a ha v => @swimWriteByte_control_sends d env P hd hctl a ha v
  refine Drv.Preserves.ite (fun _ => ?_) fun _ => Drv.Preserves.pure ()
  refine (swimReadByte_sends _).bind fun csr => ?_
  refine (hwrite _ d.control_flashDmCsr2 _).bind fun _ => ?_
  exact (hwrite _ d.control_flashCr2 _).bind fun _ => swimWriteNcr2_sends hd hctl _

theorem stlink2Lock_sends (memtype : Memtype) :
    Drv.Preserves (Stlinkv2State.SentOnly P) (stlink2Lock d env memtype) := by
  refine Drv.Preserves.ite (fun _ => ?_) fun _ => Drv.Preserves.pure ()
  exact (swimReadByte_sends _).bind fun _ =>
    swimWriteByte_control_sends hd hctl d.control_flashIapsr _

omit hctl in
/-- The block command writes to the addresses of the block. -/
theorem stlink2SendBlock_sends (buffer : Nat → Byte) {start i : Nat}
    (hP : ∀ x, u32 (start + i) ≤ x → x < u32 (start + i) + d.flashBlockSize → P x) :
    Drv.Preserves (Stlinkv2State.SentOnly P) (stlink2SendBlock d env buffer start i) := by
  have hlt : u32 (start + i) < 4294967296 := Nat.mod_lt _ (by decide)
  refine swimCmdInternal_sends ?_ (writesOnly_of_length ?_)
  · exact writesOnly_writeMem (HI_lt _) (LO_lt _) (be16_bytes hd.block_lt) (EH_lt _) (EX_lt _)
      (HI_lt _) (LO_lt _) (be32_bytes hlt) hP _
  · -- the rest of a block is longer than a packet
    have hrest : ∀ args : List Byte, args.length = 8 →
        (stlink2Rest args (Image.slice buffer i d.flashBlockSize)).length =
          d.flashBlockSize - 8 := by
      intro args hargs
      unfold stlink2Rest
      rw [List.length_drop, Image.slice_length, hargs]
    rw [hrest _ rfl]
    rcases hd.block_size with hb | hb <;> rw [hb] <;> decide

theorem stlink2WriteBlocks_sends (memtype : Memtype) (buffer : Nat → Byte) {start length : Nat}
    (hP : ∀ x, Stlink2Programs d start length x → P x) :
    Drv.Preserves (Stlinkv2State.SentOnly P)
      (stlink2WriteBlocks d env memtype buffer start length) := by
  refine (stlink2SwimReadRange_sends _ _ _).bind fun r => ?_
  refine Drv.Preserves.forFrom _ fun j _ hj => ?_
  refine Drv.Preserves.ite (fun _ => Drv.Preserves.pure ()) fun _ => ?_
  refine (stlink2EnterBlock_sends hd hctl memtype _ _).bind fun _ => ?_
  refine Drv.Preserves.bind ?_ fun _ => ?_
  · exact stlink2SendBlock_sends hd _ fun x hlow hhigh =>
      hP x ⟨j, by omega, hlow, hhigh⟩
  · -- waiting reads `FLASH_IAPSR`
    refine Drv.Preserves.ite (fun _ => ?_) fun _ => Drv.Preserves.pure ()
    exact waitEop_preserves (swimReadByte_sends _) _ 5

/-- A run of `stlink2_swim_write_range` for RAM, EEPROM or flash writes to control registers
and to the blocks of its rounds only. -/
theorem stlink2SwimWriteRange_sends {memtype : Memtype} (hmem : memtype ≠ .opt)
    (buffer : Nat → Byte) {start length : Nat}
    (hP : ∀ x, Stlink2Programs d start length x → P x) :
    Drv.Preserves (Stlinkv2State.SentOnly P)
      (stlink2SwimWriteRange d env buffer start length memtype) := by
  refine Drv.Preserves.bind (swimWriteByte_control_sends hd hctl d.control_clkCkdivr _)
    fun _ => ?_
  refine (stlink2Unlock_sends hd hctl memtype).bind fun _ => ?_
  refine Drv.Preserves.bind ?_ fun _ => ?_
  · exact Drv.Preserves.ite (fun h => absurd h hmem) fun _ =>
      stlink2WriteBlocks_sends hd hctl memtype buffer hP
  · exact (stlink2Lock_sends hd hctl memtype).bind fun _ => Drv.Preserves.pure _

/-- With a negative length it comes to control registers only. -/
theorem stlink2WriteNegative_sends {memtype : Memtype} (hmem : memtype ≠ .opt)
    (buffer : Nat → Byte) (start size : Nat) :
    Drv.Preserves (Stlinkv2State.SentOnly P)
      (stlink2WriteNegative d env buffer start size memtype) := by
  refine Drv.Preserves.bind (swimWriteByte_control_sends hd hctl d.control_clkCkdivr _)
    fun _ => ?_
  refine (stlink2Unlock_sends hd hctl memtype).bind fun _ => ?_
  exact Drv.Preserves.ite (fun h => absurd h hmem) fun _ => Drv.Preserves.pure ()

theorem stlink2Srst_sends : Drv.Preserves (Stlinkv2State.SentOnly P) (stlink2Srst d env) := by
  refine (swimReadByte_sends _).bind fun csr => ?_
  refine (swimWriteByte_control_sends hd hctl d.control_swimCsr _).bind fun _ => ?_
  exact swimCmdInternal_other_sends (by decide) _

end Programming

theorem stlink2Close_sends : Drv.Preserves (Stlinkv2State.SentOnly P) (stlink2Close d env) :=
  stlink2CmdInternal_other_sends (by decide) _

end Sends

end Stm8Flash
