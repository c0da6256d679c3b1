import Stm8Flash.Changed
import Stm8Flash.Espstlink.Failures
import Stm8Flash.Espstlink.Range

/-! # ESP: what programs the flash

Of the commands of a run, those that program are the writes to `FLASH_CR2` and the writes of more
than one byte (`isEspProgramming`). When every command is answered, a run has sent these for the
blocks that differ, one after the other, and for nothing else
(`espstlinkSwimWriteRange_programming`).
-/

namespace Stm8Flash

open Hex Word

/-- A write of other than one byte, or to `FLASH_CR2`. -/
def isEspProgramming (d : Stm8Device) (p : List Byte) : Bool :=
  p.getD 0 0 == 2 && (espstlinkSize p != 1 || espstlinkAddr p == d.regs.flashCr2)

/-- The commands that program, and whether they were answered. -/
def EspstlinkState.programming (d : Stm8Device) (s : EspstlinkState) : List (List Byte × Bool) :=
  s.sent.filter fun c => isEspProgramming d c.1

/-- The commands with which the block `data` is written to the address `a`, in the mode `mode`. -/
def espstlinkBlockCmds (d : Stm8Device) (mode : Byte) (data : List Byte) (a : Nat) :
    List (List Byte × Bool) :=
  [(espstlinkCmd 2 1 d.regs.flashCr2 ++ [mode], true),
    (espstlinkCmd 2 d.flashBlockSize a ++ data, true)]

section Trace

variable {d : Stm8Device} {env : EspstlinkEnv}

/-! ## Commands -/

/-- What is behind the command does not change its size and its address. -/
theorem isEspProgramming_append (cmd : Byte) (size addr : Nat) (data : List Byte) :
    isEspProgramming d (espstlinkCmd cmd size addr ++ data) =
      isEspProgramming d (espstlinkCmd cmd size addr) := rfl

theorem isEspProgramming_byte {a : Nat} (ha : a < 16777216) :
    isEspProgramming d (espstlinkCmd 2 1 a) = (a == d.regs.flashCr2) := by
  have hop : (espstlinkCmd 2 1 a).getD 0 0 = 2 := rfl
  unfold isEspProgramming
  rw [espstlinkAddr_cmd ha, espstlinkSize_cmd (by decide), hop]
  rfl

theorem isEspProgramming_block {size a : Nat} (hsize : size < 256) (hone : size ≠ 1) :
    isEspProgramming d (espstlinkCmd 2 size a) = true := by
  unfold isEspProgramming
  rw [espstlinkSize_cmd hsize, bne_iff_ne.mpr hone]
  rfl

theorem espstlinkCommand_quiet {p data : List Byte} (h : isEspProgramming d (p ++ data) = false) :
    Drv.Keeps (EspstlinkState.programming d) (espstlinkCommand d env p data) := by
  refine Drv.Keeps.state.bind fun s => Drv.Keeps.bind (Drv.Keeps.change fun s' => ?_) fun _ =>
    Drv.Keeps.pure _
  unfold EspstlinkState.programming
  rw [EspstlinkState.command_sent, List.filter_append, List.filter_singleton, h]
  exact List.append_nil _

theorem espstlinkSwimRead_quiet (addr size : Nat) :
    Drv.Keeps (EspstlinkState.programming d) ((espSwim d env).swimRead addr size) :=
  Drv.Keeps.bind (espstlinkCommand_quiet rfl) fun _ => Drv.Keeps.pure _

theorem espstlinkReadByte_quiet (addr : Nat) :
    Drv.Keeps (EspstlinkState.programming d) ((espSwim d env).readByte addr) :=
  EspSwim.readByte_keeps espstlinkSwimRead_quiet addr

theorem espstlinkSwimWrite_programming (hok : env.NoFailure) {buffer : List Byte} {addr size : Nat}
    (hsize : size < 256) (hlen : buffer.length = size)
    (h : isEspProgramming d (espstlinkCmd 2 size addr) = true) :
    Drv.Emits (EspstlinkState.programming d) ((espSwim d env).swimWrite buffer addr size)
      [(espstlinkCmd 2 size addr ++ buffer, true)] := by
  have hall : buffer.take size = buffer := List.take_of_length_le (by omega)
  rw [espSwim_swimWrite, espstlinkSwimWrite, espstlinkSize_cmd hsize, hall]
  refine Drv.Emits.bind_left ?_ fun _ => Drv.Emits.pure _
  refine Drv.Keeps.state.emits.bind_right fun s => ?_
  refine Drv.Emits.bind_left (Drv.Emits.change fun s' => ?_) fun _ => Drv.Emits.pure _
  unfold EspstlinkState.programming
  rw [EspstlinkState.command_sent, List.filter_append, List.filter_singleton,
    isEspProgramming_append, h, hok s'.commands]
  rfl

section Registers

variable (hd : d.Sound)

include hd

/-- A byte for a control register other than `FLASH_CR2`. -/
theorem espstlinkWriteByte_quiet {a : Nat} (ha : d.IsControl a) (hne : a ≠ d.regs.flashCr2)
    (v : Byte) : Drv.Keeps (EspstlinkState.programming d) ((espSwim d env).writeByte v a) := by
  have hlt := hd.control_lt ha
  refine Drv.Keeps.bind (espstlinkCommand_quiet ?_) fun _ => Drv.Keeps.pure _
  rw [isEspProgramming_append, isEspProgramming_byte (by omega)]
  exact beq_false_of_ne hne

theorem espstlinkWriteNcr2_quiet (v : Byte) :
    Drv.Keeps (EspstlinkState.programming d) ((espSwim d env).writeNcr2 d v) := by
  rcases hd.ne_cr2 with ⟨-, -, -, -, hne, -⟩
  exact EspSwim.writeNcr2_keeps
    (fun hncr2 v => espstlinkWriteByte_quiet hd (d.control_flashNcr2 hncr2) hne v) v

theorem espstlinkStall_quiet (stall : Bool) :
    Drv.Keeps (EspstlinkState.programming d) ((espSwim d env).stall stall) := by
  rcases hd.ne_cr2 with ⟨-, -, -, -, -, hcsr⟩
  unfold EspSwim.stall
  rw [show espstlinkDmCsr2 = d.regs.flashDmCsr2 from hd.flashDmCsr2.symm]
  refine (espstlinkReadByte_quiet _).bind fun csr => Drv.Keeps.ite (Drv.Keeps.pure _) ?_
  exact espstlinkWriteByte_quiet hd d.control_flashDmCsr2 hcsr _

theorem espstlinkPrepareForFlash_quiet (memtype : Memtype) :
    Drv.Keeps (EspstlinkState.programming d) ((espSwim d env).prepareForFlash d memtype) := by
  rcases hd.ne_cr2 with ⟨-, hpukr, hdukr, -⟩
  have hkeys {reg : Nat} (hctl : d.IsControl reg) (hne : reg ≠ d.regs.flashCr2) (k₁ k₂ : Byte) :
      Drv.Keeps (EspstlinkState.programming d) ((espSwim d env).keys k₁ k₂ reg) :=
    (espstlinkWriteByte_quiet hd hctl hne k₁).bind fun _ =>
      Drv.Keeps.ite (espstlinkWriteByte_quiet hd hctl hne k₂) (Drv.Keeps.pure _)
  refine (espstlinkStall_quiet hd true).bind fun _ => Drv.Keeps.ite ?_ (Drv.Keeps.pure _)
  cases memtype with
  | unknown => exact Drv.Keeps.pure _
  | ram => exact Drv.Keeps.pure _
  | eeprom => exact hkeys d.control_flashDukr hdukr _ _
  | flash => exact hkeys d.control_flashPukr hpukr _ _
  | opt => exact hkeys d.control_flashDukr hdukr _ _

theorem espstlinkLock_quiet (memtype : Memtype) :
    Drv.Keeps (EspstlinkState.programming d) ((espSwim d env).lock d memtype) := by
  rcases hd.ne_cr2 with ⟨-, -, -, hiapsr, -⟩
  refine Drv.Keeps.ite ((espstlinkReadByte_quiet _).bind fun _ => ?_) (Drv.Keeps.pure _)
  refine Drv.Keeps.ite ?_ (Drv.Keeps.pure _)
  exact (espstlinkWriteByte_quiet hd d.control_flashIapsr hiapsr _).bind fun _ => Drv.Keeps.pure _

/-! ## Blocks -/

/-- Before a block its mode goes to `FLASH_CR2`. -/
theorem espstlinkEnterBlock_programming (hok : env.NoFailure) {memtype : Memtype}
    (hblock : memtype.isBlock = true) (current : Nat → Byte) (i : Nat) :
    Drv.Emits (EspstlinkState.programming d) ((espSwim d env).enterBlock d memtype current i)
      [(espstlinkCmd 2 1 d.regs.flashCr2 ++ [prgmode d current i], true)] := by
  have hlt := hd.control_lt d.control_flashCr2
  have hcr2 : isEspProgramming d (espstlinkCmd 2 1 d.regs.flashCr2) = true := by
    rw [isEspProgramming_byte (by omega), beq_self_eq_true]
  unfold EspSwim.enterBlock
  rw [if_pos hblock]
  refine Drv.Emits.bind_left ?_ fun _ => (espstlinkWriteNcr2_quiet hd _).emits
  exact espstlinkSwimWrite_programming hok (by decide) rfl hcr2

/-- A block that differs is sent, after its mode; any other adds nothing. -/
theorem espstlinkWriteBlock_programming (hok : env.NoFailure) {memtype : Memtype}
    (hblock : memtype.isBlock = true) (buffer current : Nat → Byte) {start i : Nat}
    (hlt : start + i < 16777216) :
    Drv.Emits (EspstlinkState.programming d)
      ((espSwim d env).writeBlock d memtype buffer current start i)
      (if Image.slice current i d.flashBlockSize = Image.slice buffer i d.flashBlockSize then []
        else espstlinkBlockCmds d (prgmode d current i) (Image.slice buffer i d.flashBlockSize)
          (start + i)) := by
  have hpos := hd.one_lt
  have hsmall : d.flashBlockSize < 256 := by
    rcases hd.block_size with hb | hb <;> rw [hb] <;> decide
  unfold EspSwim.writeBlock
  by_cases hsame : Image.slice current i d.flashBlockSize = Image.slice buffer i d.flashBlockSize
  · rw [if_pos hsame, if_pos hsame]
    exact Drv.Emits.pure _
  · rw [if_neg hsame, if_neg hsame, u32_of_lt (by omega)]
    refine (espstlinkEnterBlock_programming hd hok hblock current i).bind fun _ => ?_
    refine Drv.Emits.bind_left (espstlinkSwimWrite_programming hok hsmall
      (Image.slice_length _ _ _) (isEspProgramming_block hsmall (by omega))) fun ok => ?_
    refine Drv.Emits.ite (fun _ => ?_) fun _ => Drv.Emits.pure _
    exact (EspSwim.waitBlock_keeps espstlinkSwimRead_quiet memtype).emits.bind_right fun _ =>
      Drv.Emits.pure _

/-- The commands that program the blocks that differ, in increasing order, each in the mode that
its old content asks for. -/
def espstlinkChangedCmds (d : Stm8Device) (m buffer : Nat → Byte) (start length : Nat) :
    List (List Byte × Bool) :=
  (changedBlocks d m buffer start length).flatMap fun j =>
    espstlinkBlockCmds d (prgmode d m (start + j * d.flashBlockSize))
      (blockAt d (written m buffer start length) (start + j * d.flashBlockSize))
      (start + j * d.flashBlockSize)

theorem espstlinkWriteBlocks_programming (hok : env.NoFailure) {memtype : Memtype}
    (hblock : memtype.isBlock = true) {m buffer : Nat → Byte} {start length : Nat}
    (h : DataRange d start length) {s t : EspstlinkState} (hm : s.target.Holds d m)
    (hrun : (espSwim d env).writeBlocks d env.stackCurrent memtype buffer start length s =
      (.ok none, t)) :
    t.programming d = s.programming d ++ espstlinkChangedCmds d m buffer start length := by
  have hbelow := h.below
  have hround := roundedSize_eq hd
    (show blockRounds d length * d.flashBlockSize < 4294967296 by omega)
  rw [EspSwim.writeBlocks] at hrun
  rcases Drv.bind_eq_ok.mp hrun with ⟨⟨received, current⟩, u, hread, hblocks⟩
  have hcur := ((@espstlinkSwimReadRange_spec d env s.target _ hok hm start (roundedSize d length)
    (by omega) (by rw [hround]; exact h.data) env.stackCurrent).of_ok rfl hread).1.2
  have hloop := Drv.loopFrom_emits (fun j _ hj u w hwrite => by
    have hpos := hd.one_lt
    have hin := round_in_range (show j < blockRounds d length by omega)
    exact espstlinkWriteBlock_programming hd hok hblock _ current (by omega) u _ w hwrite) hblocks
  have hchanged := @changedBlocks_loop d m buffer current start length _ _ hround hcur
    fun mode data a => espstlinkBlockCmds d mode data a
  rw [hchanged] at hloop
  have hquiet := (EspSwim.readRange_keeps (@espstlinkSwimRead_quiet d env) env.stackCurrent
    start (roundedSize d length)).of_run hread
  rw [hloop, hquiet]
  rfl

omit hd in
/-- Where every command is answered, no block makes the function return early. -/
theorem espstlinkWriteBlocks_none (hok : env.NoFailure) (memtype : Memtype) (buffer : Nat → Byte)
    (start length : Nat) :
    Drv.Triple (fun _ => True)
      ((espSwim d env).writeBlocks d env.stackCurrent memtype buffer start length)
      (fun r _ => r = none) (fun _ _ => True) := by
  have hwrite (data : List Byte) (addr size : Nat) : Drv.Triple (fun _ => True)
      ((espSwim d env).swimWrite data addr size) (fun ok _ => ok = true) (fun _ _ => True) := by
    intro s _
    rw [espSwim_swimWrite]
    unfold espstlinkSwimWrite espstlinkCommand
    simp only [Drv.bind_run, Drv.state_run, Drv.change_run, Drv.pure_run, hok s.commands]
    rfl
  refine (Drv.Triple.trivial _).bind fun r => ?_
  refine (Drv.Triple.loopFrom (I := fun _ _ => True) (X := fun _ _ => False) _
    fun j _ _ => ?_).post fun r _ hr => ?_
  · refine Drv.Triple.ite (fun _ => Drv.Triple.pure fun _ _ => trivial) fun _ => ?_
    refine (Drv.Triple.trivial _).bind fun _ => (hwrite _ _ _).bind fun ok => ?_
    refine Drv.Triple.ite (fun _ => ?_) fun hlost => Drv.Triple.pure fun _ hok => hlost hok
    exact ((Drv.Triple.trivial _).pre fun _ _ => trivial).bind fun _ =>
      Drv.Triple.pure fun _ _ => trivial
  · cases r with
    | some i => exact hr.elim
    | none => rfl

/-- A run that returns has programmed the blocks that differ, and nothing else. -/
theorem espstlinkSwimWriteRange_programming (hok : env.NoFailure) {memtype : Memtype}
    (hblock : memtype.isBlock = true) {buffer : Nat → Byte} {start length : Nat}
    (h : DataRange d start length) {v : Int} {s t : EspstlinkState}
    (hrun : espstlinkSwimWriteRange d env buffer start length memtype s = (.ok v, t)) :
    t.programming d =
      s.programming d ++ espstlinkChangedCmds d s.target.mem buffer start length := by
  have hopt : memtype ≠ .opt := by
    rintro rfl
    exact absurd hblock (by decide)
  rw [espstlinkSwimWriteRange, EspSwim.writeRange] at hrun
  rcases Drv.bind_eq_ok.mp hrun with ⟨ok, s₁, hprepare, hrun₁⟩
  rw [if_neg hopt] at hrun₁
  rcases Drv.bind_eq_ok.mp hrun₁ with ⟨failed, s₂, hblocks, hrun₂⟩
  obtain rfl := (espstlinkWriteBlocks_none hok memtype buffer start length).of_ok trivial hblocks
  rcases Drv.bind_eq_ok.mp hrun₂ with ⟨_, s₃, hlock, hend⟩
  cases hend
  -- the keys have changed no data, so what is read is what was there at first
  have hinit : Target.InMode d s.target.mem s.target.mode s.target := ⟨fun _ _ => rfl, rfl⟩
  have hkeys := (espstlinkPrepareForFlash_spec hd hok memtype).of_ok hinit hprepare
  have hbefore := (espstlinkPrepareForFlash_quiet hd memtype).of_run hprepare
  have hafter := (espstlinkLock_quiet hd memtype).of_run hlock
  rw [hafter, espstlinkWriteBlocks_programming hd hok hblock h hkeys.1 hblocks, hbefore]

end Registers

end Trace

end Stm8Flash
