import Stm8Flash.Stlinkv2.Commands

/-! # ST-Link V2: reading and writing a range

`stlink2SwimReadRange_spec` says that a read delivers the data of the target, and
`stlink2SwimWriteRange_spec` that a write leaves the target with the buffer at the range and
every other data byte as it was. The invariant of the block loop is that the target holds the
data with the blocks so far written (`written`) and that no programming mode waits for a
block.
-/

namespace Stm8Flash

open Hex Word

section Specs

variable {d : Stm8Device} {env : Stlinkv2Env} {t : Target} {m : Nat → Byte}

/-! ## Reading -/

/-- The loop reads the rest of the range, chunk by chunk, or something fails. -/
theorem stlink2ReadLoop_read (h16 : env.readBufSize < 65536) {fuel start remaining : Nat}
    (hfuel : 1 ≤ env.readBufSize → remaining ≤ fuel) (hlim : start + remaining ≤ 16777216)
    (i : Nat) (buffer : Nat → Byte) :
    Drv.Triple (fun s => s.target = t) (stlink2ReadLoop d env fuel i start remaining buffer)
      (fun buf s => buf = Image.storeAll buffer
          (Image.block i (t.read d env.hw start remaining)) ∧
        s.target = t.afterRead d start remaining) (fun _ _ => ¬env.NoFailure) := by
  induction fuel generalizing t start remaining i buffer with
  | zero =>
    unfold stlink2ReadLoop
    refine Drv.Triple.ite (fun hzero => ?_) fun hpos => ?_
    · subst hzero
      exact Drv.Triple.pure fun s hs => ⟨rfl, by rw [hs, Target.afterRead_zero]⟩
    · -- only a buffer that takes nothing leads here
      refine Drv.Triple.stop fun s hs hok => ?_
      have := hfuel hok.readBufSize_pos
      omega
  | succ fuel ih =>
    unfold stlink2ReadLoop
    refine Drv.Triple.ite (fun hzero => ?_) fun hpos => ?_
    · subst hzero
      exact Drv.Triple.pure fun s hs => ⟨rfl, by rw [hs, Target.afterRead_zero]⟩
    · generalize hsize : (if remaining > env.readBufSize then env.readBufSize else remaining) = size
      have hbound : (1 ≤ env.readBufSize → 1 ≤ size) ∧ size ≤ remaining ∧ size < 65536 := by
        rw [← hsize]
        split <;> omega
      rcases hbound with ⟨hsize1, hle, hlt⟩
      obtain ⟨k, rfl⟩ : ∃ k, remaining = size + k := ⟨remaining - size, by omega⟩
      intro s hs
      have hrun : Drv.Triple (Stlinkv2State.At t s.readbuf) (swimCmdInternal d env
          (swimMemArgs 0x0b (HI size) (LO size) 0x00 (EX start) (HI start) (LO start)) [])
          (fun _ => Stlinkv2State.At (t.afterRead d start size) (t.read d env.hw start size))
          (fun _ _ => ¬env.NoFailure) :=
        @swimCmdInternal_read d env t s.readbuf _ _ _ _ _ _ _ _ (HI_lt size)
          (LO_lt size) (be16_bytes hlt) (show 0x00 < 256 by decide) (EX_lt start) (HI_lt start)
          (LO_lt start) (be32_bytes24 (show start < 16777216 by omega))
      refine Drv.Triple.bind hrun (fun _ => Drv.Triple.bind stlink2_readbuf fun _ =>
        Drv.Triple.bind (stlink2MsgRecv_spec (Target.read_length t d env.hw start size))
          fun bs => Drv.Triple.and_pre fun hbs => ?_) s ⟨hs, rfl⟩
      have hrest := @ih (t.afterRead d start size) (start + size) (size + k - size)
        (fun hpos => by have := hfuel hpos; have := hsize1 hpos; omega) (by omega) (i + size)
        (Image.storeAll buffer (Image.block i bs))
      have hstart : u32 (start + size) = start + size := u32_of_lt (by omega)
      rw [hstart]
      refine (hrest.post fun buf u hu => ?_).pre fun u hu => hu.1
      -- the chunk and the rest are one read
      rw [Nat.add_sub_cancel_left] at hu
      rw [Target.read_add, ← Target.afterRead_add, Image.block_append, Target.read_length,
        Image.storeAll_append, ← hbs]
      exact hu

/-- The loop reads the rest of the range, chunk by chunk. -/
theorem stlink2ReadLoop_spec (hok : env.NoFailure) {fuel start remaining : Nat}
    (hfuel : remaining ≤ fuel) (hlim : start + remaining ≤ 16777216) (i : Nat)
    (buffer : Nat → Byte) :
    Drv.Triple (fun s => s.target = t) (stlink2ReadLoop d env fuel i start remaining buffer)
      (fun buf s => buf = Image.storeAll buffer
          (Image.block i (t.read d env.hw start remaining)) ∧
        s.target = t.afterRead d start remaining) (fun _ _ => False) :=
  hok.total (stlink2ReadLoop_read hok.readBufSize_lt (fun _ => hfuel) hlim i buffer)

/-- `stlink2_swim_read_range` delivers what the target shows. -/
theorem stlink2SwimReadRange_read (hok : env.NoFailure) {start length : Nat}
    (hlim : start + length ≤ 16777216) (buffer : Nat → Byte) :
    Drv.Triple (fun s => s.target = t) (stlink2SwimReadRange d env buffer start length)
      (fun r s => (r.1 = toInt32 length ∧ ∀ k < length, r.2 k = t.peek d env.hw (start + k)) ∧
        s.target = t.afterRead d start length) (fun _ _ => False) := by
  apply (stlink2ReadLoop_spec hok (Nat.le_refl length) hlim 0 buffer).bind
  intro buf
  refine Drv.Triple.pure fun s hs => ⟨⟨rfl, fun k hk => ?_⟩, hs.2⟩
  have hat := Image.storeAll_block_slice_at buffer (t.peek d env.hw) 0 start length k hk
  rw [Nat.zero_add] at hat
  rw [hs.1]
  exact hat

/-- `stlink2_swim_read_range` delivers the data of the target. -/
theorem stlink2SwimReadRange_spec (hok : env.NoFailure) (h : t.Holds d m) {start length : Nat}
    (hlim : start + length ≤ 16777216) (ha : ∀ k < length, ¬d.IsControl (start + k))
    (buffer : Nat → Byte) :
    Drv.Triple (fun s => s.target = t) (stlink2SwimReadRange d env buffer start length)
      (fun r s => (r.1 = toInt32 length ∧ ∀ k < length, r.2 k = m (start + k)) ∧ s.target = t)
      (fun _ _ => False) := by
  apply (stlink2SwimReadRange_read hok hlim buffer).post
  intro r s hs
  rcases hs with ⟨⟨hvalue, hdata⟩, htarget⟩
  rw [Target.afterRead_data ha] at htarget
  refine ⟨⟨hvalue, fun k hk => ?_⟩, htarget⟩
  rw [hdata k hk, h.peek env.hw (ha k hk)]

/-! ## Registers -/

theorem swimWriteByte_regs (hd : d.Sound) (hok : env.NoFailure) :
    WritesRegs Stlinkv2State.target d (fun _ _ => False) (swimWriteByte d env) := by
  intro t v a ha
  have hlt := hd.control_lt ha
  exact hok.total (swimWriteByte_spec hd.one_lt (by omega) v)

theorem swimReadByte_regs (hd : d.Sound) (hok : env.NoFailure) :
    ReadsRegs Stlinkv2State.target d env.hw (swimReadByte d env) := by
  intro t a ha
  have hlt := hd.control_lt ha
  exact hok.total (swimReadByte_spec (by omega))

theorem swimWriteNcr2_spec (hd : d.Sound) (hok : env.NoFailure) (v : Byte) {mode : ProgMode} :
    Drv.Triple (fun s => Target.InMode d m mode s.target) (swimWriteNcr2 d env v)
      (fun _ s => Target.InMode d m mode s.target) (fun _ _ => False) := by
  rcases hd.ne_cr2 with ⟨-, -, -, -, hne, -⟩
  refine Drv.Triple.ite (fun h => ?_) fun _ => Drv.Triple.pure fun _ hs => hs
  exact (swimWriteByte_regs hd hok).control (d.control_flashNcr2 h) hne v

theorem stlink2Unlock_spec (hd : d.Sound) (hok : env.NoFailure) (memtype : Memtype)
    {mode : ProgMode} :
    Drv.Triple (fun s => Target.InMode d m mode s.target) (stlink2Unlock d env memtype)
      (fun _ s => Target.InMode d m mode s.target) (fun _ _ => False) := by
  rcases hd.ne_cr2 with ⟨-, hpukr, hdukr, -⟩
  have hwrite := swimWriteByte_regs hd hok
  have hdukrs : Drv.Triple (fun s => Target.InMode d m mode s.target) (do
      swimWriteByte d env 0xae d.regs.flashDukr
      swimWriteByte d env 0x56 d.regs.flashDukr)
      (fun _ s => Target.InMode d m mode s.target) (fun _ _ => False) :=
    (hwrite.control d.control_flashDukr hdukr _).bind fun _ =>
      hwrite.control d.control_flashDukr hdukr _
  cases memtype with
  | unknown => exact Drv.Triple.pure fun _ hs => hs
  | ram => exact Drv.Triple.pure fun _ hs => hs
  | eeprom => exact hdukrs
  | flash =>
    apply (hwrite.control d.control_flashPukr hpukr _).bind
    intro _
    exact hwrite.control d.control_flashPukr hpukr _
  | opt => exact hdukrs

theorem stlink2Lock_spec (hd : d.Sound) (hok : env.NoFailure) (memtype : Memtype)
    {mode : ProgMode} :
    Drv.Triple (fun s => Target.InMode d m mode s.target) (stlink2Lock d env memtype)
      (fun _ s => Target.InMode d m mode s.target) (fun _ _ => False) := by
  rcases hd.ne_cr2 with ⟨-, -, -, hiapsr, -⟩
  refine Drv.Triple.ite (fun _ => ?_) fun _ => Drv.Triple.pure fun _ hs => hs
  apply ((swimReadByte_regs hd hok).control d.control_flashIapsr).bind
  intro _
  exact (swimWriteByte_regs hd hok).control d.control_flashIapsr hiapsr _

/-! ## Option bytes -/

/-- One option byte. -/
theorem stlink2OptByte_spec (hd : d.Sound) (hok : env.NoFailure) (hsees : env.hw.SeesEop)
    (buffer : Nat → Byte) {start j : Nat} (hlt : start + j < 16777216)
    (hctl : ¬d.IsControl (start + j)) :
    Drv.Triple (fun s => Target.InMode d (written m buffer start j) .option s.target)
      (stlink2OptByte d env buffer start j)
      (fun _ s => Target.InMode d (written m buffer start (j + 1)) .option s.target)
      (fun _ _ => False) := by
  have haddr : u32 (start + j) = start + j := u32_of_lt (by omega)
  unfold stlink2OptByte
  rw [haddr]
  refine optByte_spec (swimReadByte_regs hd hok).iapsr (fun t => ?_) _ hsees hctl
  exact hok.total (swimWriteByte_spec hd.one_lt hlt _)

theorem stlink2WriteOpt_spec (hd : d.Sound) (hok : env.NoFailure) (hsees : env.hw.SeesEop)
    (buffer : Nat → Byte) {start length : Nat} (hlim : start + length ≤ 16777216)
    (ha : ∀ k < length, ¬d.IsControl (start + k)) {mode : ProgMode} :
    Drv.Triple (fun s => Target.InMode d m mode s.target)
      (stlink2WriteOpt d env buffer start length)
      (fun _ s => Target.InMode d (written m buffer start length) .option s.target)
      (fun _ _ => False) := by
  apply ((swimWriteByte_regs hd hok).cr2 0x80).bind
  intro _
  apply (swimWriteNcr2_spec hd hok 0x7F).bind
  intro _
  -- after `j` rounds the first `j` bytes are written
  have hloop : Drv.Triple
      (fun s => Target.InMode d (written m buffer start 0) .option s.target)
      (Drv.forFrom (stlink2OptByte d env buffer start) length 0)
      (fun _ s => Target.InMode d (written m buffer start (0 + length)) .option s.target)
      (fun _ _ => False) := by
    refine Drv.Triple.forFrom (I := fun j (s : Stlinkv2State) =>
      Target.InMode d (written m buffer start j) .option s.target) length fun j _ hj => ?_
    exact stlink2OptByte_spec hd hok hsees buffer (by omega) (ha j (by omega))
  rw [Nat.zero_add] at hloop
  exact hloop

/-! ## Blocks -/

theorem stlink2EnterBlock_spec (hd : d.Sound) (hok : env.NoFailure) (memtype : Memtype)
    (current : Nat → Byte) (i : Nat) :
    Drv.Triple (fun s => Target.Ready d m s.target) (stlink2EnterBlock d env memtype current i)
      (fun _ s => BlockMode d memtype m current i s.target) (fun _ _ => False) := by
  rcases hd.ne_cr2 with ⟨-, -, -, -, -, hcsr⟩
  have hctl := d.control_flashDmCsr2
  have hwrite := swimWriteByte_regs hd hok
  unfold stlink2EnterBlock
  apply enterBlock_spec
  intro mode
  apply ((swimReadByte_regs hd hok).control hctl).bind
  intro csr
  apply (hwrite.control hctl hcsr _).bind
  intro _
  exact (hwrite.cr2 _).bind fun _ => swimWriteNcr2_spec hd hok _

/-- The block command writes the block. -/
theorem stlink2SendBlock_spec (hd : d.Sound) (hok : env.NoFailure) (buffer : Nat → Byte)
    {start i : Nat} (hlt : start + i < 16777216) :
    Drv.Triple (fun s => s.target = t) (stlink2SendBlock d env buffer start i)
      (fun _ s => s.target = t.write d (start + i) (Image.slice buffer i d.flashBlockSize))
      (fun _ _ => False) := by
  intro s hs
  have haddr : u32 (start + i) = start + i := u32_of_lt (by omega)
  have hlen : be16 (HI d.flashBlockSize) (LO d.flashBlockSize) =
      (Image.slice buffer i d.flashBlockSize).length := by
    rw [be16_bytes hd.block_lt, Image.slice_length]
  have hwrite := hok.total <| @swimCmdInternal_write d env t s.readbuf _ _ _ _ _ _ _
    (Image.slice buffer i d.flashBlockSize) (HI_lt d.flashBlockSize) (LO_lt d.flashBlockSize) hlen
    (EH_lt (start + i)) (EX_lt (start + i)) (HI_lt (start + i)) (LO_lt (start + i))
    (be32_bytes (show start + i < 4294967296 by omega))
  unfold stlink2SendBlock
  rw [haddr]
  exact (hwrite.post fun _ u hu => hu.1) s ⟨hs, rfl⟩

/-- One round of the block loop: the block is on the target afterwards, whether it was sent or
was there. -/
theorem stlink2WriteBlock_spec (hd : d.Sound) (hok : env.NoFailure) (hsees : env.hw.SeesEop)
    (memtype : Memtype) {buffer current : Nat → Byte} {start i : Nat}
    (hlim : start + i + d.flashBlockSize ≤ 16777216)
    (halign : (start + i) % d.flashBlockSize = 0)
    (ha : ∀ k < d.flashBlockSize, ¬d.IsControl (start + i + k))
    (hcur : ∀ k < d.flashBlockSize, current (i + k) = m (start + i + k)) :
    Drv.Triple (fun s => Target.Ready d (written m buffer start i) s.target)
      (stlink2WriteBlock d env memtype buffer current start i)
      (fun _ s => Target.Ready d (written m buffer start (i + d.flashBlockSize)) s.target)
      (fun _ _ => False) := by
  have hpos := hd.one_lt
  unfold stlink2WriteBlock
  -- a block that is the same is skipped
  refine Drv.Triple.ite (fun hsame => ?_) fun _ => ?_
  · rw [written_skip hcur hsame]
    exact Drv.Triple.pure fun _ hs => hs
  · refine (stlink2EnterBlock_spec hd hok memtype current i).bind fun _ => ?_
    refine Drv.Triple.of_part fun t ht => ?_
    refine (stlink2SendBlock_spec hd hok buffer (by omega)).bind fun _ => ?_
    exact waitBlock_spec (swimReadByte_regs hd hok).iapsr _ hsees ht halign ha hcur

/-- The blocks of the range. -/
theorem stlink2WriteBlocks_spec (hd : d.Sound) (hok : env.NoFailure) (hsees : env.hw.SeesEop)
    (memtype : Memtype) (buffer : Nat → Byte) {start length : Nat}
    (hlim : start + blockRounds d length * d.flashBlockSize ≤ 16777216)
    (halign : start % d.flashBlockSize = 0)
    (ha : ∀ k < blockRounds d length * d.flashBlockSize, ¬d.IsControl (start + k)) :
    Drv.Triple (fun s => Target.Ready d m s.target)
      (stlink2WriteBlocks d env memtype buffer start length)
      (fun _ s => Target.Ready d (written m buffer start length) s.target)
      (fun _ _ => False) := by
  have hround := roundedSize_eq hd
    (show blockRounds d length * d.flashBlockSize < 4294967296 by omega)
  have hle := length_le_rounds hd length
  unfold stlink2WriteBlocks
  rw [hround]
  apply Drv.Triple.of_part
  intro t ht
  apply (stlink2SwimReadRange_spec hok ht.1 hlim ha env.stackCurrent).bind
  intro r
  apply Drv.Triple.and_pre
  intro hr
  rcases r with ⟨v, current⟩
  rcases hr with ⟨-, hcur⟩
  -- with its tail completed the buffer is a whole number of blocks
  rw [← @written_mergeTail m buffer current start length _ hle hcur]
  show Drv.Triple _ (Drv.forFrom (fun j => stlink2WriteBlock d env memtype
    (mergeTail buffer current length (blockRounds d length * d.flashBlockSize)) current start
    (j * d.flashBlockSize)) (blockRounds d length) 0) _ _
  generalize mergeTail buffer current length (blockRounds d length * d.flashBlockSize) = new
  -- after `j` rounds the first `j` blocks are written
  have hloop : Drv.Triple
      (fun s => Target.Ready d (written m new start (0 * d.flashBlockSize)) s.target)
      (Drv.forFrom (fun j => stlink2WriteBlock d env memtype new current start
        (j * d.flashBlockSize)) (blockRounds d length) 0)
      (fun _ s => Target.Ready d
        (written m new start ((0 + blockRounds d length) * d.flashBlockSize)) s.target)
      (fun _ _ => False) := by
    refine Drv.Triple.forFrom (I := fun j (s : Stlinkv2State) =>
      Target.Ready d (written m new start (j * d.flashBlockSize)) s.target) _ fun j _ hj => ?_
    have hin := round_in_range (show j < blockRounds d length by omega)
    rw [Nat.add_mul, Nat.one_mul]
    refine stlink2WriteBlock_spec hd hok hsees memtype (by omega) ?_ ?_ ?_
    · rw [Nat.add_mul_mod_self_right]
      exact halign
    · intro k hk
      rw [Nat.add_assoc]
      exact ha _ (by omega)
    · intro k hk
      rw [Nat.add_assoc]
      exact hcur _ (by omega)
  rw [Nat.zero_add] at hloop
  apply hloop.pre
  intro s hs
  rw [hs, Nat.zero_mul, written_zero]
  exact ht

/-! ## The whole write -/

/-- `stlink2_swim_write_range` returns, and the target holds the buffer at the range and every
other data byte as before. -/
theorem stlink2SwimWriteRange_spec (hd : d.Sound) (hok : env.NoFailure)
    (hsees : env.hw.SeesEop) (memtype : Memtype) (buffer : Nat → Byte) {start length : Nat}
    (hlim : start + blockRounds d length * d.flashBlockSize ≤ 16777216)
    (halign : start % d.flashBlockSize = 0)
    (ha : ∀ k < blockRounds d length * d.flashBlockSize, ¬d.IsControl (start + k)) :
    Drv.Triple (fun s => Target.Ready d m s.target)
      (stlink2SwimWriteRange d env buffer start length memtype)
      (fun v s => v = toInt32 length ∧ Target.Ready d (written m buffer start length) s.target)
      (fun _ _ => False) := by
  rcases hd.ne_cr2 with ⟨hckdivr, -⟩
  have hle := length_le_rounds hd length
  refine Drv.Triple.bind (Q := fun _ s => Target.Ready d m s.target) ?_ fun _ => ?_
  · exact ready_of_inMode fun _ =>
      (swimWriteByte_regs hd hok).control d.control_clkCkdivr hckdivr 0x00
  refine Drv.Triple.bind (Q := fun _ s => Target.Ready d m s.target) ?_ fun _ => ?_
  · exact ready_of_inMode fun mode => stlink2Unlock_spec hd hok memtype
  refine Drv.Triple.bind
    (Q := fun _ s => Target.Ready d (written m buffer start length) s.target) ?_ fun _ => ?_
  · unfold stlink2WriteData
    refine Drv.Triple.ite (fun _ s hs => ?_) fun _ => ?_
    · have hopt := @stlink2WriteOpt_spec d env m hd hok hsees buffer start length (by omega)
        (fun k hk => ha k (by omega)) s.target.mode
      exact (hopt.post fun _ u hu => ⟨hu.1, Or.inr hu.2⟩) s ⟨hs.1, rfl⟩
    · exact stlink2WriteBlocks_spec hd hok hsees memtype buffer hlim halign ha
  refine Drv.Triple.bind
    (Q := fun _ s => Target.Ready d (written m buffer start length) s.target) ?_ fun _ => ?_
  · exact ready_of_inMode fun mode => stlink2Lock_spec hd hok memtype
  · exact Drv.Triple.pure fun s hs => ⟨rfl, hs⟩

end Specs

end Stm8Flash
