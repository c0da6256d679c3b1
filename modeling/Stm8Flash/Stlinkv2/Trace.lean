import Stm8Flash.Changed
import Stm8Flash.Stlinkv2.Range
import Stm8Flash.Stlinkv2.Transfers

/-! # ST-Link V2: what programs the flash

Of the transfers of a run, those that program are the writes to `FLASH_CR2`, the writes of more
than one byte, and the data behind them (`isProgramming`). A run that returns has sent these for
the blocks that differ, one after the other, and for nothing else
(`stlink2SwimWriteRange_programming`).
-/

namespace Stm8Flash

open Hex Word

/-- A `SWIM_WRITEMEM` of other than one byte or to `FLASH_CR2`, or a transfer that is no packet. -/
def isProgramming (d : Stm8Device) (p : List Byte) : Bool :=
  p.length != 16 || (p.getD 0 0 == 0xf4 && p.getD 1 0 == 0x0a &&
    (swimLength p != 1 || swimAddr p == d.regs.flashCr2))

/-- The transfers that program. -/
def Stlinkv2State.programming (d : Stm8Device) (s : Stlinkv2State) : List (List Byte) :=
  s.sent.filter (isProgramming d)

/-- The packet that writes `mode` to `FLASH_CR2`. -/
def stlink2ModePacket (d : Stm8Device) (mode : Byte) : List Byte :=
  stlink2Packet (swimMemArgs 0x0a 0x00 0x01 0x00 (EX d.regs.flashCr2) (HI d.regs.flashCr2)
    (LO d.regs.flashCr2) ++ [mode]) []

/-- The transfers that write the block `data` to the address `a`. -/
def stlink2BlockTransfers (d : Stm8Device) (data : List Byte) (a : Nat) : List (List Byte) :=
  stlink2Transfers (swimMemArgs 0x0a (HI d.flashBlockSize) (LO d.flashBlockSize) (EH a) (EX a)
    (HI a) (LO a)) data

section Trace

variable {d : Stm8Device} {env : Stlinkv2Env}

/-! ## Commands that do not program -/

theorem stlink2Transfers_nil (args : List Byte) :
    stlink2Transfers args [] = [stlink2Packet args []] := by
  unfold stlink2Transfers stlink2Rest transferOf
  rw [List.drop_nil, if_pos rfl]

/-- Another command than `SWIM_WRITEMEM`. -/
theorem transfers_other {cmd : Byte} (hcmd : cmd ≠ 0x0a) {rest : List Byte}
    (hlen : rest.length ≤ 14) :
    (stlink2Transfers (0xf4 :: cmd :: rest) []).filter (isProgramming d) = [] := by
  have hlength := stlink2Packet_length (show (0xf4 :: cmd :: rest).length ≤ 16 by
    rw [List.length_cons, List.length_cons]
    omega) []
  have hop : (stlink2Packet (0xf4 :: cmd :: rest) []).getD 1 0 = cmd := rfl
  rw [stlink2Transfers_nil, List.filter_singleton]
  unfold isProgramming
  rw [hlength, hop, beq_false_of_ne hcmd, Bool.and_false, Bool.false_and]
  rfl

/-- A write of one byte programs if it is to `FLASH_CR2`. -/
theorem transfers_byte {a : Nat} (ha : a < 16777216) (v : Byte) :
    (stlink2Transfers (swimMemArgs 0x0a 0x00 0x01 0x00 (EX a) (HI a) (LO a) ++ [v]) []).filter
      (isProgramming d) = if a = d.regs.flashCr2 then [stlink2ModePacket d v] else [] := by
  have hsame : stlink2Packet (swimMemArgs 0x0a 0x00 0x01 0x00 (EX a) (HI a) (LO a) ++ [v]) [] =
    stlink2Packet (swimMemArgs 0x0a 0x00 0x01 0x00 (EX a) (HI a) (LO a)) [v] := rfl
  have hop := stlink2Packet_opcode 0x0a 0x00 0x01 0x00 (EX a) (HI a) (LO a) [v]
  have hlength := swimLength_mem 0x0a 0x00 0x01 0x00 (EX a) (HI a) (LO a) [v] (by decide)
    (by decide)
  have haddr := swimAddr_mem 0x0a 0x00 0x01 0x00 (EX a) (HI a) (LO a) [v] (by decide) (EX_lt a)
    (HI_lt a) (LO_lt a)
  rw [be32_bytes24 ha] at haddr
  have hone : be16 0x00 0x01 = 1 := rfl
  rw [stlink2Transfers_nil, List.filter_singleton]
  unfold isProgramming
  rw [stlink2Packet_length (Nat.le_of_ble_eq_true rfl), hsame, hop.1, hop.2, hlength, haddr, hone]
  by_cases hcr2 : a = d.regs.flashCr2
  · rw [if_pos hcr2, hcr2, beq_self_eq_true]
    simp only [beq_self_eq_true, Bool.and_self, Bool.or_true, cond_true]
    rfl
  · rw [if_neg hcr2, beq_false_of_ne hcr2]
    rfl

/-- A block programs, with its packet and with what follows it. -/
theorem transfers_block (hd : d.Sound) {data : List Byte} (hdata : data.length = d.flashBlockSize)
    (a : Nat) : (stlink2BlockTransfers d data a).filter (isProgramming d) =
      stlink2BlockTransfers d data a := by
  refine List.filter_eq_self.mpr fun p hp => ?_
  unfold isProgramming
  rcases List.mem_cons.mp hp with rfl | hp
  · -- the length of the packet is that of a block
    rw [(stlink2Packet_opcode _ _ _ _ _ _ _ _).1, (stlink2Packet_opcode _ _ _ _ _ _ _ _).2,
      swimLength_mem _ _ _ _ _ _ _ _ (HI_lt _) (LO_lt _), be16_bytes hd.block_lt,
      bne_iff_ne.mpr (Nat.ne_of_gt hd.one_lt)]
    simp
  · -- the rest of a block is longer than a packet
    have hrest : p = data.drop 8 := by
      unfold transferOf at hp
      split at hp
      · cases hp
      · exact List.mem_singleton.mp hp
    have hlong : p.length ≠ 16 := by
      rw [hrest, List.length_drop, hdata]
      rcases hd.block_size with hb | hb <;> rw [hb] <;> decide
    rw [bne_iff_ne.mpr hlong, Bool.true_or]

/-! ## What the commands add -/

theorem swimCmdInternal_quiet {cmd : Byte} (hcmd : cmd ≠ 0x0a) {rest : List Byte}
    (hlen : rest.length ≤ 14) :
    Drv.Emits (Stlinkv2State.programming d) (swimCmdInternal d env (0xf4 :: cmd :: rest) []) [] := by
  have hsent := (@swimCmdInternal_sent d env (0xf4 :: cmd :: rest) []).filter (isProgramming d)
  rwa [transfers_other hcmd hlen] at hsent

theorem stlink2Readbuf_quiet :
    Drv.Emits (Stlinkv2State.programming d) (stlink2CmdInternal d env [0xf4, 0x0c] []) [] := by
  have hsent := (@stlink2CmdInternal_sent d env [0xf4, 0x0c] []).filter (isProgramming d)
  rwa [transfers_other (by decide) (by decide)] at hsent

theorem stlink2MsgRecv_quiet (n : Nat) :
    Drv.Emits (Stlinkv2State.programming d) (stlink2MsgRecv env n) [] :=
  ((stlink2MsgRecv_sent n).comp (List.filter (isProgramming d))).emits

theorem swimReadByte_quiet (a : Nat) :
    Drv.Emits (Stlinkv2State.programming d) (swimReadByte d env a) [] := by
  refine (swimCmdInternal_quiet (by decide) (Nat.le_of_ble_eq_true rfl)).bind_right fun _ => ?_
  refine stlink2Readbuf_quiet.bind_right fun _ => ?_
  exact (stlink2MsgRecv_quiet 1).bind_right fun _ => Drv.Emits.pure _

theorem swimWriteByte_programming {a : Nat} (ha : a < 16777216) (v : Byte) :
    Drv.Emits (Stlinkv2State.programming d) (swimWriteByte d env v a)
      (if a = d.regs.flashCr2 then [stlink2ModePacket d v] else []) := by
  have hsent := (@swimCmdInternal_sent d env
    (swimMemArgs 0x0a 0x00 0x01 0x00 (EX a) (HI a) (LO a) ++ [v]) []).filter (isProgramming d)
  rwa [transfers_byte ha] at hsent

theorem stlink2SwimReadRange_quiet (buffer : Nat → Byte) (start length : Nat) :
    Drv.Emits (Stlinkv2State.programming d) (stlink2SwimReadRange d env buffer start length) [] := by
  have hloop : ∀ fuel i start remaining buffer, Drv.Emits (Stlinkv2State.programming d)
      (stlink2ReadLoop d env fuel i start remaining buffer) [] := by
    intro fuel
    induction fuel with
    | zero =>
      intro i start remaining buffer
      exact Drv.Emits.ite (fun _ => Drv.Emits.pure _) fun _ => Drv.Emits.stop _
    | succ fuel ih =>
      intro i start remaining buffer
      refine Drv.Emits.ite (fun _ => Drv.Emits.pure _) fun _ => ?_
      refine (swimCmdInternal_quiet (by decide) (Nat.le_of_ble_eq_true rfl)).bind_right fun _ => ?_
      refine stlink2Readbuf_quiet.bind_right fun _ => ?_
      exact (stlink2MsgRecv_quiet _).bind_right fun _ => ih _ _ _ _
  exact (hloop length 0 start length buffer).bind_right fun _ => Drv.Emits.pure _

section Registers

variable (hd : d.Sound)

include hd

/-- A byte for a control register other than `FLASH_CR2`. -/
theorem swimWriteByte_quiet {a : Nat} (ha : d.IsControl a) (hne : a ≠ d.regs.flashCr2) (v : Byte) :
    Drv.Emits (Stlinkv2State.programming d) (swimWriteByte d env v a) [] := by
  have hlt := hd.control_lt ha
  have hbyte := @swimWriteByte_programming d env a (by omega) v
  rwa [if_neg hne] at hbyte

theorem swimWriteNcr2_quiet (v : Byte) :
    Drv.Emits (Stlinkv2State.programming d) (swimWriteNcr2 d env v) [] := by
  rcases hd.ne_cr2 with ⟨-, -, -, -, hne, -⟩
  refine Drv.Emits.ite (fun h => ?_) fun _ => Drv.Emits.pure ()
  exact swimWriteByte_quiet hd (d.control_flashNcr2 h) hne v

theorem stlink2Unlock_quiet (memtype : Memtype) :
    Drv.Emits (Stlinkv2State.programming d) (stlink2Unlock d env memtype) [] := by
  rcases hd.ne_cr2 with ⟨-, hpukr, hdukr, -⟩
  have hpukrs := fun v => @swimWriteByte_quiet d env hd _ d.control_flashPukr hpukr v
  have hdukrs := fun v => @swimWriteByte_quiet d env hd _ d.control_flashDukr hdukr v
  cases memtype with
  | unknown => exact Drv.Emits.pure ()
  | ram => exact Drv.Emits.pure ()
  | eeprom => exact (hdukrs _).bind_right fun _ => hdukrs _
  | flash => exact (hpukrs _).bind_right fun _ => hpukrs _
  | opt => exact (hdukrs _).bind_right fun _ => hdukrs _

theorem stlink2Lock_quiet (memtype : Memtype) :
    Drv.Emits (Stlinkv2State.programming d) (stlink2Lock d env memtype) [] := by
  rcases hd.ne_cr2 with ⟨-, -, -, hiapsr, -⟩
  refine Drv.Emits.ite (fun _ => ?_) fun _ => Drv.Emits.pure ()
  refine (swimReadByte_quiet _).bind_right fun _ => ?_
  exact swimWriteByte_quiet hd d.control_flashIapsr hiapsr _

/-! ## Blocks -/

/-- Before a block its mode goes to `FLASH_CR2`. -/
theorem stlink2EnterBlock_programming {memtype : Memtype} (hblock : memtype.isBlock = true)
    (current : Nat → Byte) (i : Nat) :
    Drv.Emits (Stlinkv2State.programming d) (stlink2EnterBlock d env memtype current i)
      [stlink2ModePacket d (prgmode d current i)] := by
  rcases hd.ne_cr2 with ⟨-, -, -, -, -, hcsr⟩
  have hcr2 := hd.control_lt d.control_flashCr2
  unfold stlink2EnterBlock
  rw [if_pos hblock]
  refine (swimReadByte_quiet _).bind_right fun csr => ?_
  refine (swimWriteByte_quiet hd d.control_flashDmCsr2 hcsr _).bind_right fun _ => ?_
  refine Drv.Emits.bind_left ?_ fun _ => swimWriteNcr2_quiet hd _
  have hmode := @swimWriteByte_programming d env d.regs.flashCr2 (by omega) (prgmode d current i)
  rwa [if_pos rfl] at hmode

theorem stlink2SendBlock_programming (buffer : Nat → Byte) {start i : Nat}
    (hlt : start + i < 16777216) :
    Drv.Emits (Stlinkv2State.programming d) (stlink2SendBlock d env buffer start i)
      (stlink2BlockTransfers d (Image.slice buffer i d.flashBlockSize) (start + i)) := by
  have hsent := (@swimCmdInternal_sent d env (swimMemArgs 0x0a (HI d.flashBlockSize)
    (LO d.flashBlockSize) (EH (start + i)) (EX (start + i)) (HI (start + i)) (LO (start + i)))
    (Image.slice buffer i d.flashBlockSize)).filter (isProgramming d)
  have hblock := transfers_block hd (Image.slice_length buffer i d.flashBlockSize) (start + i)
  unfold stlink2BlockTransfers at hblock ⊢
  rw [hblock] at hsent
  unfold stlink2SendBlock
  rwa [u32_of_lt (by omega)]

/-- A block that differs is sent, after its mode; any other adds nothing. -/
theorem stlink2WriteBlock_programming {memtype : Memtype} (hblock : memtype.isBlock = true)
    (buffer current : Nat → Byte) {start i : Nat} (hlt : start + i < 16777216) :
    Drv.Emits (Stlinkv2State.programming d)
      (stlink2WriteBlock d env memtype buffer current start i)
      (if Image.slice current i d.flashBlockSize = Image.slice buffer i d.flashBlockSize then []
        else stlink2ModePacket d (prgmode d current i) ::
          stlink2BlockTransfers d (Image.slice buffer i d.flashBlockSize) (start + i)) := by
  unfold stlink2WriteBlock
  by_cases hsame : Image.slice current i d.flashBlockSize = Image.slice buffer i d.flashBlockSize
  · rw [if_pos hsame, if_pos hsame]
    exact Drv.Emits.pure ()
  · rw [if_neg hsame, if_neg hsame]
    refine (stlink2EnterBlock_programming hd hblock current i).bind fun _ => ?_
    refine (stlink2SendBlock_programming hd buffer hlt).bind_left fun _ => ?_
    unfold stlink2WaitBlock
    rw [if_pos hblock]
    exact waitEop_emits (swimReadByte_quiet _) _ 5

end Registers

/-- The transfers that program the blocks that differ, in increasing order, each in the mode that
its old content asks for. -/
def stlink2ChangedTransfers (d : Stm8Device) (m buffer : Nat → Byte) (start length : Nat) :
    List (List Byte) :=
  (changedBlocks d m buffer start length).flatMap fun j =>
    stlink2ModePacket d (prgmode d m (start + j * d.flashBlockSize)) ::
      stlink2BlockTransfers d
        (blockAt d (written m buffer start length) (start + j * d.flashBlockSize))
        (start + j * d.flashBlockSize)

theorem stlink2WriteBlocks_programming (hd : d.Sound) (hok : env.NoFailure) {memtype : Memtype}
    (hblock : memtype.isBlock = true) {m buffer : Nat → Byte} {start length : Nat}
    (h : DataRange d start length) {s t : Stlinkv2State} (hm : s.target.Holds d m)
    (hrun : stlink2WriteBlocks d env memtype buffer start length s = (.ok (), t)) :
    t.programming d = s.programming d ++ stlink2ChangedTransfers d m buffer start length := by
  have hbelow := h.below
  have hround := roundedSize_eq hd
    (show blockRounds d length * d.flashBlockSize < 4294967296 by omega)
  rw [stlink2WriteBlocks] at hrun
  rcases Drv.bind_eq_ok.mp hrun with ⟨⟨received, current⟩, u, hread, hblocks⟩
  have hcur := ((@stlink2SwimReadRange_spec d env s.target _ hok hm start (roundedSize d length)
    (by omega) (by rw [hround]; exact h.data) env.stackCurrent).of_ok rfl hread).1.2
  have hloop : Drv.Emits (Stlinkv2State.programming d)
      (Drv.forFrom (fun j => stlink2WriteBlock d env memtype
        (mergeTail buffer current length (roundedSize d length)) current start
        (j * d.flashBlockSize)) (blockRounds d length) 0) _ :=
    Drv.Emits.forFrom _ fun j _ hj => stlink2WriteBlock_programming hd hblock _ _ (by
      have hin := round_in_range (show j < blockRounds d length by omega)
      have hpos := hd.one_lt
      omega)
  have hchanged := @changedBlocks_loop d m buffer current start length _ _ hround hcur
    fun mode data a => stlink2ModePacket d mode :: stlink2BlockTransfers d data a
  rw [hchanged] at hloop
  have hquiet := stlink2SwimReadRange_quiet env.stackCurrent start (roundedSize d length) s _ u hread
  rw [hloop u _ t hblocks, hquiet, List.append_nil]
  rfl

/-- A run that returns has programmed the blocks that differ, and nothing else. -/
theorem stlink2SwimWriteRange_programming (hd : d.Sound) (hok : env.NoFailure) {memtype : Memtype}
    (hblock : memtype.isBlock = true) {buffer : Nat → Byte} {start length : Nat}
    (h : DataRange d start length) {v : Int} {s t : Stlinkv2State}
    (hrun : stlink2SwimWriteRange d env buffer start length memtype s = (.ok v, t)) :
    t.programming d =
      s.programming d ++ stlink2ChangedTransfers d s.target.mem buffer start length := by
  rcases hd.ne_cr2 with ⟨hckdivr, -⟩
  have hopt : memtype ≠ .opt := by
    rintro rfl
    exact absurd hblock (by decide)
  rcases Drv.bind_eq_ok.mp hrun with ⟨_, s₁, hck, hrun₁⟩
  rcases Drv.bind_eq_ok.mp hrun₁ with ⟨_, s₂, hunlock, hrun₂⟩
  rcases Drv.bind_eq_ok.mp hrun₂ with ⟨_, s₃, hdata, hrun₃⟩
  rcases Drv.bind_eq_ok.mp hrun₃ with ⟨_, s₄, hlock, hend⟩
  cases hend
  -- the keys have changed no data, so what is read is what was there at first
  have hinit : Target.InMode d s.target.mem s.target.mode s.target := ⟨fun _ _ => rfl, rfl⟩
  have hafter := ((swimWriteByte_regs hd hok).control d.control_clkCkdivr hckdivr 0x00).of_ok
    hinit hck
  have hkeys := (stlink2Unlock_spec hd hok memtype).of_ok hafter hunlock
  rw [stlink2WriteData, if_neg hopt] at hdata
  rw [stlink2Lock_quiet hd memtype s₃ _ _ hlock,
    stlink2WriteBlocks_programming hd hok hblock h hkeys.1 hdata,
    stlink2Unlock_quiet hd memtype s₁ _ _ hunlock,
    swimWriteByte_quiet hd d.control_clkCkdivr hckdivr 0x00 s _ _ hck, List.append_nil,
    List.append_nil, List.append_nil]

end Trace

end Stm8Flash
