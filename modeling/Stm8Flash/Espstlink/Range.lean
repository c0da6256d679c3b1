import Stm8Flash.Espstlink.Model

/-! # The ESP back end, when nothing fails

The specifications of the commands, then `espstlinkSwimReadRange_spec` and
`espstlinkSwimWriteRange_spec`: with every command answered and every wait seeing `EOP`, a
write leaves the target with the buffer at the range and every other data byte as it was.
-/

namespace Stm8Flash

open Hex Word

/-- Every command is answered. -/
def EspstlinkEnv.NoFailure (env : EspstlinkEnv) : Prop := ∀ k, env.answered k = true

/-! ## Commands -/

theorem espstlinkSize_cmd {cmd : Byte} {size addr : Nat} (h : size < 256) :
    espstlinkSize (espstlinkCmd cmd size addr) = size := by
  show (UInt8.ofNat size).toNat = size
  rw [UInt8.toNat_ofNat']
  exact Nat.mod_eq_of_lt h

theorem espstlinkAddr_cmd {cmd : Byte} {size addr : Nat} (h : addr < 16777216) :
    espstlinkAddr (espstlinkCmd cmd size addr) = addr := by
  show be32 0 (UInt8.ofNat (addr >>> 16)).toNat (UInt8.ofNat (addr >>> 8)).toNat
    (UInt8.ofNat addr).toNat = addr
  rw [UInt8.toNat_ofNat', UInt8.toNat_ofNat', UInt8.toNat_ofNat', Nat.shiftRight_eq_div_pow,
    Nat.shiftRight_eq_div_pow, be32]
  omega

section Specs

variable {d : Stm8Device} {env : EspstlinkEnv} {t : Target} {m : Nat → Byte}

theorem espstlinkCommand_spec (hok : env.NoFailure) (p data : List Byte) :
    Drv.Triple (fun s => s.target = t) (espstlinkCommand d env p data)
      (fun r s => r = some t ∧ s.target = espstlinkReceive d p data t) (fun _ _ => False) := by
  intro s hs
  unfold espstlinkCommand
  rw [Drv.state_bind_run, Drv.change_bind_run, Drv.pure_run, hok s.commands]
  constructor
  · rw [if_pos rfl, hs]
  · rw [EspstlinkState.command_target, if_pos (Or.inl rfl), hs]

theorem espstlinkSwimRead_spec (hok : env.NoFailure) {addr size : Nat} (ha : addr < 16777216)
    (hsize : size < 256) :
    Drv.Triple (fun s => s.target = t) ((espSwim d env).swimRead addr size)
      (fun r s => r = some (t.read d env.hw addr size) ∧ s.target = t.afterRead d addr size)
      (fun _ _ => False) := by
  apply (espstlinkCommand_spec hok _ _).bind
  intro r
  apply Drv.Triple.pure
  intro s hs
  rcases hs with ⟨hr, htarget⟩
  have hcmd : (espstlinkCmd 1 size addr).getD 0 0 = 1 := rfl
  rw [espstlinkReceive, hcmd, if_neg (by decide), if_pos rfl] at htarget
  rw [espstlinkAddr_cmd ha, espstlinkSize_cmd hsize] at htarget ⊢
  constructor
  · rw [hr]
    rfl
  · exact htarget

theorem espstlinkSwimWrite_spec (hok : env.NoFailure) {buffer : List Byte} {addr size : Nat}
    (ha : addr < 16777216) (hsize : size < 256) (hlen : buffer.length = size) :
    Drv.Triple (fun s => s.target = t) ((espSwim d env).swimWrite buffer addr size)
      (fun r s => r = true ∧ s.target = t.write d addr buffer) (fun _ _ => False) := by
  apply (espstlinkCommand_spec hok _ _).bind
  intro r
  apply Drv.Triple.pure
  intro s hs
  rcases hs with ⟨hr, htarget⟩
  have hcmd : (espstlinkCmd 2 size addr).getD 0 0 = 2 := rfl
  have hall : buffer.take size = buffer := List.take_of_length_le (by omega)
  rw [espstlinkReceive, hcmd, if_pos rfl, espstlinkAddr_cmd ha, espstlinkSize_cmd hsize, hall,
    hall] at htarget
  constructor
  · rw [hr]
    rfl
  · exact htarget

theorem espstlinkWriteByte_spec (hok : env.NoFailure) (hb : 1 < d.flashBlockSize) {a : Nat}
    (ha : a < 16777216) (v : Byte) :
    Drv.Triple (fun s => s.target = t) ((espSwim d env).writeByte v a)
      (fun r s => r = true ∧ s.target = t.poke d a v) (fun _ _ => False) := by
  apply (espstlinkSwimWrite_spec hok ha (show 1 < 256 by decide) rfl).post
  intro r s hs
  rw [Target.write_one hb] at hs
  exact hs

theorem espstlinkReadByte_spec (hok : env.NoFailure) {a : Nat} (ha : a < 16777216) :
    Drv.Triple (fun s => s.target = t) ((espSwim d env).readByte a)
      (fun v s => v = (t.peek d env.hw a).toNat ∧ s.target = t.afterRead d a 1)
      (fun _ _ => False) := by
  apply (espstlinkSwimRead_spec hok ha (by decide)).bind
  intro r
  apply Drv.Triple.and_pre
  intro hr
  rw [hr]
  exact Drv.Triple.pure fun s hs => ⟨rfl, hs⟩

/-! ## Registers -/

theorem espstlinkWriteByte_regs (hd : d.Sound) (hok : env.NoFailure) :
    WritesRegs EspstlinkState.target d (fun _ _ => False) ((espSwim d env).writeByte) := by
  intro t v a ha
  have hlt := hd.control_lt ha
  exact (espstlinkWriteByte_spec hok hd.one_lt (by omega) v).post fun _ _ hs => hs.2

theorem espstlinkReadByte_regs (hd : d.Sound) (hok : env.NoFailure) :
    ReadsRegs EspstlinkState.target d env.hw ((espSwim d env).readByte) := by
  intro t a ha
  have hlt := hd.control_lt ha
  exact espstlinkReadByte_spec hok (by omega)

theorem espstlinkWriteNcr2_spec (hd : d.Sound) (hok : env.NoFailure) (v : Byte)
    {mode : ProgMode} :
    Drv.Triple (fun s => Target.InMode d m mode s.target) ((espSwim d env).writeNcr2 d v)
      (fun _ s => Target.InMode d m mode s.target) (fun _ _ => False) := by
  rcases hd.ne_cr2 with ⟨-, -, -, -, hne, -⟩
  refine Drv.Triple.ite (fun h => ?_) fun _ => Drv.Triple.pure fun _ hs => hs
  apply ((espstlinkWriteByte_regs hd hok).control (d.control_flashNcr2 h) hne v).bind
  intro _
  exact Drv.Triple.pure fun _ hs => hs

theorem espstlinkStall_spec (hd : d.Sound) (hok : env.NoFailure) (stall : Bool)
    {mode : ProgMode} :
    Drv.Triple (fun s => Target.InMode d m mode s.target) ((espSwim d env).stall stall)
      (fun _ s => Target.InMode d m mode s.target) (fun _ _ => False) := by
  rcases hd.ne_cr2 with ⟨-, -, -, -, -, hcsr⟩
  have hctl := d.control_flashDmCsr2
  unfold EspSwim.stall
  rw [show espstlinkDmCsr2 = d.regs.flashDmCsr2 from hd.flashDmCsr2.symm]
  refine ((espstlinkReadByte_regs hd hok).control hctl).bind ?_
  intro csr
  refine Drv.Triple.ite (fun _ => Drv.Triple.pure fun _ hs => hs) ?_
  intro _
  exact (espstlinkWriteByte_regs hd hok).control hctl hcsr _

theorem espstlinkKeys_spec (hd : d.Sound) (hok : env.NoFailure) (first second : Byte) {reg : Nat}
    (hctl : d.IsControl reg) (hne : reg ≠ d.regs.flashCr2) {mode : ProgMode} :
    Drv.Triple (fun s => Target.InMode d m mode s.target) ((espSwim d env).keys first second reg)
      (fun _ s => Target.InMode d m mode s.target) (fun _ _ => False) := by
  have hwrite := espstlinkWriteByte_regs hd hok
  apply (hwrite.control hctl hne first).bind
  intro ok
  exact Drv.Triple.ite (fun _ => hwrite.control hctl hne second)
    fun _ => Drv.Triple.pure fun _ hs => hs

theorem espstlinkPrepareForFlash_spec (hd : d.Sound) (hok : env.NoFailure) (memtype : Memtype)
    {mode : ProgMode} :
    Drv.Triple (fun s => Target.InMode d m mode s.target)
      ((espSwim d env).prepareForFlash d memtype)
      (fun _ s => Target.InMode d m mode s.target) (fun _ _ => False) := by
  rcases hd.ne_cr2 with ⟨-, hpukr, hdukr, -⟩
  apply (espstlinkStall_spec hd hok true).bind
  intro ok
  refine Drv.Triple.ite (fun _ => ?_) fun _ => Drv.Triple.pure fun _ hs => hs
  cases memtype with
  | unknown => exact Drv.Triple.pure fun _ hs => hs
  | ram => exact Drv.Triple.pure fun _ hs => hs
  | eeprom => exact espstlinkKeys_spec hd hok _ _ d.control_flashDukr hdukr
  | flash => exact espstlinkKeys_spec hd hok _ _ d.control_flashPukr hpukr
  | opt => exact espstlinkKeys_spec hd hok _ _ d.control_flashDukr hdukr

theorem espstlinkLock_spec (hd : d.Sound) (hok : env.NoFailure) (memtype : Memtype)
    {mode : ProgMode} :
    Drv.Triple (fun s => Target.InMode d m mode s.target) ((espSwim d env).lock d memtype)
      (fun _ s => Target.InMode d m mode s.target) (fun _ _ => False) := by
  rcases hd.ne_cr2 with ⟨-, -, -, hiapsr, -⟩
  have hctl := d.control_flashIapsr
  refine Drv.Triple.ite (fun _ => ?_) fun _ => Drv.Triple.pure fun _ hs => hs
  apply ((espstlinkReadByte_regs hd hok).control hctl).bind
  intro iapsr
  refine Drv.Triple.ite (fun _ => ?_) fun _ => Drv.Triple.pure fun _ hs => hs
  apply ((espstlinkWriteByte_regs hd hok).control hctl hiapsr _).bind
  intro _
  exact Drv.Triple.pure fun _ hs => hs

/-! ## Reading -/

/-- The loop reads the rest of the range, chunk by chunk. -/
theorem espstlinkReadLoop_spec (hok : env.NoFailure) {start length : Nat}
    (hlim : start + length ≤ 16777216) {fuel i remaining : Nat} (hi : i + remaining = length)
    (hfuel : remaining ≤ fuel) (buffer : Nat → Byte) :
    Drv.Triple (fun s => s.target = t) ((espSwim d env).readLoop start length fuel i buffer)
      (fun r s => r = (length, Image.storeAll buffer
          (Image.block i (t.read d env.hw (start + i) remaining))) ∧
        s.target = t.afterRead d (start + i) remaining) (fun _ _ => False) := by
  induction fuel generalizing t i remaining buffer with
  | zero =>
    have hzero : remaining = 0 := by omega
    subst hzero
    exact Drv.Triple.pure fun s hs => ⟨by rw [← hi]; rfl, by rw [hs, Target.afterRead_zero]⟩
  | succ fuel ih =>
    unfold EspSwim.readLoop
    refine Drv.Triple.ite (fun hlt => ?_) fun hend => ?_
    · refine Drv.Triple.ite (fun _ => ?_) fun hbig => by omega
      -- one chunk of at least one byte
      generalize hsize : (if length - i > 255 then 255 else length - i) = size
      have hbound : 1 ≤ size ∧ size ≤ remaining ∧ size < 256 := by
        rw [← hsize]
        split <;> omega
      rcases hbound with ⟨hsize1, hle, hlt256⟩
      obtain ⟨k, rfl⟩ : ∃ k, remaining = size + k := ⟨remaining - size, by omega⟩
      have haddr : u32 (start + i) = start + i := u32_of_lt (by omega)
      rw [haddr]
      refine (espstlinkSwimRead_spec hok (by omega) hlt256).bind fun r => ?_
      refine Drv.Triple.and_pre fun hr => ?_
      rw [hr]
      apply (@ih (t.afterRead d (start + i) size) (i + size) k (by omega) (by omega) _).post
      intro r s hs
      -- the chunk and the rest are one read
      rw [Target.read_add, ← Target.afterRead_add, Image.block_append, Target.read_length,
        Image.storeAll_append, Nat.add_assoc]
      exact hs
    · have hzero : remaining = 0 := by omega
      subst hzero
      exact Drv.Triple.pure fun s hs => ⟨by rw [← hi]; rfl, by rw [hs, Target.afterRead_zero]⟩

/-- `espstlink_swim_read_range` delivers what the target shows. -/
theorem espstlinkSwimReadRange_read (hok : env.NoFailure) {start length : Nat}
    (hlim : start + length ≤ 16777216) (buffer : Nat → Byte) :
    Drv.Triple (fun s => s.target = t) (espstlinkSwimReadRange d env buffer start length)
      (fun r s => (r.1 = toInt32 length ∧ ∀ k < length, r.2 k = t.peek d env.hw (start + k)) ∧
        s.target = t.afterRead d start length) (fun _ _ => False) := by
  refine (@espstlinkReadLoop_spec d env t hok start length hlim length 0 length
    (Nat.zero_add length) (Nat.le_refl length) buffer).bind fun r => ?_
  apply Drv.Triple.pure
  intro s hs
  rcases hs with ⟨hr, htarget⟩
  refine ⟨⟨by rw [hr], fun k hk => ?_⟩, htarget⟩
  have hat := Image.storeAll_block_slice_at buffer (t.peek d env.hw) 0 start length k hk
  rw [Nat.zero_add] at hat
  rw [hr]
  exact hat

/-- `espstlink_swim_read_range` delivers the data of the target. -/
theorem espstlinkSwimReadRange_spec (hok : env.NoFailure) (h : t.Holds d m) {start length : Nat}
    (hlim : start + length ≤ 16777216) (ha : ∀ k < length, ¬d.IsControl (start + k))
    (buffer : Nat → Byte) :
    Drv.Triple (fun s => s.target = t) (espstlinkSwimReadRange d env buffer start length)
      (fun r s => (r.1 = toInt32 length ∧ ∀ k < length, r.2 k = m (start + k)) ∧ s.target = t)
      (fun _ _ => False) := by
  apply (espstlinkSwimReadRange_read hok hlim buffer).post
  intro r s hs
  rcases hs with ⟨⟨hvalue, hdata⟩, htarget⟩
  rw [Target.afterRead_data ha] at htarget
  refine ⟨⟨hvalue, fun k hk => ?_⟩, htarget⟩
  rw [hdata k hk, h.peek env.hw (ha k hk)]

/-! ## Option bytes -/

theorem espstlinkOptByte_spec (hd : d.Sound) (hok : env.NoFailure) (hsees : env.hw.SeesEop)
    (buffer : Nat → Byte) {start j : Nat} (hlt : start + j < 16777216)
    (hctl : ¬d.IsControl (start + j)) :
    Drv.Triple (fun s => Target.InMode d (written m buffer start j) .option s.target)
      ((espSwim d env).optByte d buffer start j)
      (fun _ s => Target.InMode d (written m buffer start (j + 1)) .option s.target)
      (fun _ _ => False) := by
  have haddr : u32 (start + j) = start + j := u32_of_lt (by omega)
  unfold EspSwim.optByte
  rw [haddr]
  refine optByte_spec (espstlinkReadByte_regs hd hok).iapsr (fun t => ?_) _ hsees hctl
  exact (espstlinkWriteByte_spec hok hd.one_lt hlt _).post fun _ _ hs => hs.2

theorem espstlinkWriteOpt_spec (hd : d.Sound) (hok : env.NoFailure) (hsees : env.hw.SeesEop)
    (buffer : Nat → Byte) {start length : Nat} (hlim : start + length ≤ 16777216)
    (ha : ∀ k < length, ¬d.IsControl (start + k)) {mode : ProgMode} :
    Drv.Triple (fun s => Target.InMode d m mode s.target)
      ((espSwim d env).writeOpt d buffer start length)
      (fun _ s => Target.InMode d (written m buffer start length) .option s.target)
      (fun _ _ => False) := by
  apply ((espstlinkWriteByte_regs hd hok).cr2 0x80).bind
  intro _
  apply (espstlinkWriteNcr2_spec hd hok 0x7F).bind
  intro _
  -- after `j` rounds the first `j` bytes are written
  have hloop : Drv.Triple
      (fun s => Target.InMode d (written m buffer start 0) .option s.target)
      (Drv.forFrom ((espSwim d env).optByte d buffer start) length 0)
      (fun _ s => Target.InMode d (written m buffer start (0 + length)) .option s.target)
      (fun _ _ => False) := by
    refine Drv.Triple.forFrom (I := fun j (s : EspstlinkState) =>
      Target.InMode d (written m buffer start j) .option s.target) length fun j _ hj => ?_
    exact espstlinkOptByte_spec hd hok hsees buffer (by omega) (ha j (by omega))
  rw [Nat.zero_add] at hloop
  exact hloop

/-! ## Blocks -/

theorem espstlinkEnterBlock_spec (hd : d.Sound) (hok : env.NoFailure) (memtype : Memtype)
    (current : Nat → Byte) (i : Nat) :
    Drv.Triple (fun s => Target.Ready d m s.target) ((espSwim d env).enterBlock d memtype current i)
      (fun _ s => BlockMode d memtype m current i s.target) (fun _ _ => False) := by
  unfold EspSwim.enterBlock
  apply enterBlock_spec
  intro mode
  apply ((espstlinkWriteByte_regs hd hok).cr2 _).bind
  intro _
  exact espstlinkWriteNcr2_spec hd hok _

/-- One round of the block loop: the function does not return, and the block is on the
target. -/
theorem espstlinkWriteBlock_spec (hd : d.Sound) (hok : env.NoFailure) (hsees : env.hw.SeesEop)
    (memtype : Memtype) {buffer current : Nat → Byte} {start i : Nat}
    (hlim : start + i + d.flashBlockSize ≤ 16777216)
    (halign : (start + i) % d.flashBlockSize = 0)
    (ha : ∀ k < d.flashBlockSize, ¬d.IsControl (start + i + k))
    (hcur : ∀ k < d.flashBlockSize, current (i + k) = m (start + i + k)) :
    Drv.Triple (fun s => Target.Ready d (written m buffer start i) s.target)
      ((espSwim d env).writeBlock d memtype buffer current start i)
      (fun r s => r = none ∧
        Target.Ready d (written m buffer start (i + d.flashBlockSize)) s.target)
      (fun _ _ => False) := by
  have hpos := hd.one_lt
  -- the size of a block fits the length byte of the command
  have hsmall : d.flashBlockSize < 256 := by
    rcases hd.block_size with hb | hb <;> rw [hb] <;> decide
  have haddr : u32 (start + i) = start + i := u32_of_lt (by omega)
  unfold EspSwim.writeBlock
  refine Drv.Triple.ite (fun hsame => ?_) fun _ => ?_
  · rw [written_skip hcur hsame]
    exact Drv.Triple.pure fun _ hs => ⟨rfl, hs⟩
  · refine (espstlinkEnterBlock_spec hd hok memtype current i).bind fun _ => ?_
    refine Drv.Triple.of_part fun t ht => ?_
    rw [haddr]
    refine (espstlinkSwimWrite_spec hok (by omega) hsmall (by simp)).bind fun ok => ?_
    refine Drv.Triple.and_pre fun hsent => ?_
    rw [if_pos hsent]
    refine Drv.Triple.bind (Q := fun _ s =>
      Target.Ready d (written m buffer start (i + d.flashBlockSize)) s.target) ?_ fun _ =>
        Drv.Triple.pure fun s hs => ⟨rfl, hs⟩
    exact waitBlock_spec (espstlinkReadByte_regs hd hok).iapsr _ hsees ht halign ha hcur

/-- The blocks of the range are all sent. -/
theorem espstlinkWriteBlocks_spec (hd : d.Sound) (hok : env.NoFailure) (hsees : env.hw.SeesEop)
    (memtype : Memtype) (buffer : Nat → Byte) {start length : Nat}
    (hlim : start + blockRounds d length * d.flashBlockSize ≤ 16777216)
    (halign : start % d.flashBlockSize = 0)
    (ha : ∀ k < blockRounds d length * d.flashBlockSize, ¬d.IsControl (start + k)) :
    Drv.Triple (fun s => Target.Ready d m s.target)
      ((espSwim d env).writeBlocks d env.stackCurrent memtype buffer start length)
      (fun r s => r = none ∧ Target.Ready d (written m buffer start length) s.target)
      (fun _ _ => False) := by
  have hround := roundedSize_eq hd
    (show blockRounds d length * d.flashBlockSize < 4294967296 by omega)
  have hle := length_le_rounds hd length
  unfold EspSwim.writeBlocks
  rw [hround]
  refine Drv.Triple.of_part fun t ht => ?_
  refine (espstlinkSwimReadRange_spec hok ht.1 hlim ha env.stackCurrent).bind fun r => ?_
  refine Drv.Triple.and_pre fun hr => ?_
  rcases r with ⟨v, current⟩
  rcases hr with ⟨-, hcur⟩
  -- with its tail completed the buffer is a whole number of blocks
  rw [← @written_mergeTail m buffer current start length _ hle hcur]
  show Drv.Triple _ (Drv.loopFrom (fun j => (espSwim d env).writeBlock d memtype
    (mergeTail buffer current length (blockRounds d length * d.flashBlockSize)) current start
    (j * d.flashBlockSize)) (blockRounds d length) 0) _ _
  generalize mergeTail buffer current length (blockRounds d length * d.flashBlockSize) = new
  -- no round leaves the loop
  have hloop : Drv.Triple
      (fun s => Target.Ready d (written m new start (0 * d.flashBlockSize)) s.target)
      (Drv.loopFrom (fun j => (espSwim d env).writeBlock d memtype new current start
        (j * d.flashBlockSize)) (blockRounds d length) 0)
      (Drv.LeftOr (fun _ _ => False) fun s => Target.Ready d
        (written m new start ((0 + blockRounds d length) * d.flashBlockSize)) s.target)
      (fun _ _ => False) := by
    refine Drv.Triple.loopFrom (I := fun j (s : EspstlinkState) =>
      Target.Ready d (written m new start (j * d.flashBlockSize)) s.target) _ fun j _ hj => ?_
    have hin := round_in_range (show j < blockRounds d length by omega)
    refine (espstlinkWriteBlock_spec hd hok hsees memtype (by omega) ?_ ?_ ?_).post ?_
    · rw [Nat.add_mul_mod_self_right]
      exact halign
    · intro k hk
      rw [Nat.add_assoc]
      exact ha _ (by omega)
    · intro k hk
      rw [Nat.add_assoc]
      exact hcur _ (by omega)
    · intro r s hs
      rcases hs with ⟨hnone, hready⟩
      rw [hnone, Nat.add_mul, Nat.one_mul]
      exact hready
  rw [Nat.zero_add] at hloop
  refine (hloop.post fun r s hs => ?_).pre fun s hs => ?_
  · cases r with
    | some i => exact hs.elim
    | none => exact ⟨rfl, hs⟩
  · rw [hs, Nat.zero_mul, written_zero]
    exact ht

/-! ## The whole write -/

/-- `espstlink_swim_write_range` returns, and the target holds the buffer at the range and every
other data byte as before. -/
theorem espstlinkSwimWriteRange_spec (hd : d.Sound) (hok : env.NoFailure)
    (hsees : env.hw.SeesEop) (memtype : Memtype) (buffer : Nat → Byte) {start length : Nat}
    (hlim : start + blockRounds d length * d.flashBlockSize ≤ 16777216)
    (halign : start % d.flashBlockSize = 0)
    (ha : ∀ k < blockRounds d length * d.flashBlockSize, ¬d.IsControl (start + k)) :
    Drv.Triple (fun s => Target.Ready d m s.target)
      (espstlinkSwimWriteRange d env buffer start length memtype)
      (fun v s => (length : Int) ≤ v ∧ Target.Ready d (written m buffer start length) s.target)
      (fun _ _ => False) := by
  have hle := length_le_rounds hd length
  refine Drv.Triple.bind (Q := fun _ s => Target.Ready d m s.target) ?_ fun _ => ?_
  · exact ready_of_inMode fun mode => espstlinkPrepareForFlash_spec hd hok memtype
  refine Drv.Triple.ite (fun _ => ?_) fun _ => ?_
  · refine Drv.Triple.bind
      (Q := fun _ s => Target.Ready d (written m buffer start length) s.target) ?_ fun _ => ?_
    · intro s hs
      have hopt := @espstlinkWriteOpt_spec d env m hd hok hsees buffer start length (by omega)
        (fun k hk => ha k (by omega)) s.target.mode
      exact (hopt.post fun _ u hu => ⟨hu.1, Or.inr hu.2⟩) s ⟨hs.1, rfl⟩
    · refine (ready_of_inMode fun mode => espstlinkLock_spec hd hok memtype).bind fun _ => ?_
      refine Drv.Triple.pure fun s hs => ⟨?_, hs⟩
      rw [toInt32_of_lt (by omega)]
  · -- the loop counter ends at the rounded length, which is returned
    refine (espstlinkWriteBlocks_spec hd hok hsees memtype buffer hlim halign ha).bind fun r => ?_
    refine Drv.Triple.and_pre fun hr => ?_
    rw [hr]
    refine (ready_of_inMode fun mode => espstlinkLock_spec hd hok memtype).bind fun _ => ?_
    refine Drv.Triple.pure fun s hs => ⟨?_, hs⟩
    rw [toInt32_of_lt (by omega)]
    omega

end Specs

end Stm8Flash
