import Stm8Flash.Locks
import Stm8Flash.Stlink.Range

/-! # ST-Link V1 and the locks

`stlink_swim_write_range` writes `FLASH_IAPSR` before the keys, after them, and at the end. What
a run that returns has made of the locks is what these bytes, the keys and the data that go to
memory one by one make of them (`stlinkSwimWriteRange_locks`).
-/

namespace Stm8Flash

open Hex Word

theorem Memtype.isStored_iff {memtype : Memtype} :
    memtype.isStored = true ↔ memtype = .flash ∨ memtype = .eeprom ∨ memtype = .opt := by
  cases memtype <;> decide

section Stlink

/-- What `stlink_swim_write_range` writes to the lock registers before the blocks. -/
def stlinkUnlockPokes (d : Stm8Device) (memtype : Memtype) : List (Nat × Byte) :=
  (d.regs.flashIapsr, 0x00) ::
    (if memtype = .flash then [(d.regs.flashPukr, 0x56), (d.regs.flashPukr, 0xae)]
      else [(d.regs.flashDukr, 0xae), (d.regs.flashDukr, 0x56)]) ++ [(d.regs.flashIapsr, 0x56)]

/-- The bytes of the block at `buffer + i` where they are written one by one: a block that begins
at a block boundary is programmed as a whole. -/
def stlinkBlockPokes (d : Stm8Device) (buffer : Nat → Byte) (start length i : Nat) :
    List (Nat × Byte) :=
  if start % d.flashBlockSize = 0 then []
  else Image.block ((start + i) % 65536) (stlinkBlock d buffer length i)

/-- The data that are written one by one in the first `n` rounds. -/
def stlinkDataPokes (d : Stm8Device) (buffer : Nat → Byte) (start length n : Nat) :
    List (Nat × Byte) :=
  (List.range n).flatMap fun j => stlinkBlockPokes d buffer start length (j * d.flashBlockSize)

variable {d : Stm8Device} {env : StlinkEnv} {l : Locks} {memtype : Memtype}

/-- A byte that is written to a register, once or several times. -/
theorem stlinkSwimWriteByte_poke (hd : d.Sound) {a : Nat} (ha : d.IsControl a) {v : Byte}
    {P Q : Target → Prop} (hfirst : ∀ t, P t → Q (t.poke d a v))
    (hagain : ∀ t, Q t → Q (t.poke d a v)) :
    Drv.Triple (fun s => P s.target) (stlinkSwimWriteByte d env v a) (fun _ s => Q s.target)
      (fun _ _ => True) := by
  have htry {R : Target → Prop} (h : ∀ t, R t → Q (t.poke d a v)) :
      Drv.Triple (fun s : StlinkState => R s.target) (stlinkTryByte d env v a)
        (fun _ s => Q s.target) (fun _ _ => True) := by
    apply Drv.Triple.of_part
    intro t ht
    apply (stlinkTryByte_regs hd t v a ha).post
    intro _ s hs
    rw [hs]
    exact h t ht
  exact stlinkSwimWriteByte_spec (htry hfirst) (htry hagain)

theorem stlinkSwimWriteByte_locks (hd : d.Sound) {a : Nat} (ha : d.IsControl a) (v : Byte) :
    Drv.Triple (fun s => s.target.locks = l) (stlinkSwimWriteByte d env v a)
      (fun _ s => s.target.locks = l.poke d (a, v)) (fun _ _ => True) := by
  refine stlinkSwimWriteByte_poke hd ha (P := fun t => t.locks = l)
    (Q := fun t => t.locks = l.poke d (a, v)) (fun t ht => ?_) fun t ht => ?_
  · rw [Target.poke_locks hd, ht]
  · rw [Target.poke_locks hd, ht, Locks.poke_again]

/-- Any other register. -/
theorem stlinkSwimWriteByte_off (hd : d.Sound) {a : Nat} (ha : d.IsControl a) (hoff : ¬d.IsLock a)
    (v : Byte) :
    Drv.Triple (fun s => s.target.locks = l) (stlinkSwimWriteByte d env v a)
      (fun _ s => s.target.locks = l) (fun _ _ => True) := by
  apply (stlinkSwimWriteByte_locks hd ha v).post
  intro _ s hs
  rw [hs]
  exact Locks.poke_off hoff

theorem stlinkSession_locks (hd : d.Sound) :
    Drv.Triple (fun s => s.target.locks = l) (stlinkInitSession d env)
        (fun _ s => s.target.locks = l) (fun _ _ => True) ∧
      Drv.Triple (fun s => s.target.locks = l) (stlinkFinishSession d env)
        (fun _ s => s.target.locks = l) (fun _ _ => True) := by
  rcases hd.lock_ne with ⟨-, -, -, -, hcsr, -⟩
  have hseen : SeenOnly (fun s => s.target.locks = l) (fun _ _ => True) :=
    fun _ _ h => inMode_of_seen h (P := fun t => t.locks = l)
  constructor
  · apply stlinkInitSession_keeps hseen
    intro v
    exact stlinkSwimWriteByte_off hd d.control_swimCsr hcsr v
  · apply stlinkFinishSession_keeps hseen
    intro v
    exact stlinkSwimWriteByte_off hd d.control_swimCsr hcsr v

theorem stlinkUnlock_locks (hd : d.Sound) (hstored : memtype.isStored = true) :
    Drv.Triple (fun s => s.target.locks = l) (stlinkUnlock d env memtype)
      (fun _ s => s.target.locks = l.pokes d (stlinkUnlockPokes d memtype)) (fun _ _ => True) := by
  have hbyte (l : Locks) {a : Nat} (ha : d.IsControl a) (v : Byte) :=
    @stlinkSwimWriteByte_locks d env l hd a ha v
  have hnone (l : Locks) (c : Prop) [Decidable c] (hc : ¬c) (m : Stlink Nat) :
      Drv.Triple (fun s => s.target.locks = l) (Drv.when c m) (fun _ s => s.target.locks = l)
        (fun _ _ => True) := Drv.Triple.when (fun h => absurd h hc) fun _ _ hs => hs
  have hiapsr (l : Locks) (v : Byte) :
      Drv.Triple (fun s => s.target.locks = l)
        (Drv.when memtype.isStored (stlinkSwimWriteByte d env v d.regs.flashIapsr))
        (fun _ s => s.target.locks = l.poke d (d.regs.flashIapsr, v)) (fun _ _ => True) :=
    Drv.Triple.when (fun _ => hbyte l d.control_flashIapsr v) fun h => absurd hstored h
  unfold stlinkUnlock stlinkUnlockPokes
  refine (hiapsr l _).bind fun _ => ?_
  by_cases hflash : memtype = .flash
  · rw [if_pos hflash]
    refine Drv.Triple.bind (Drv.Triple.when (fun _ => (hbyte _ d.control_flashPukr _).bind fun _ =>
      hbyte _ d.control_flashPukr _) fun h => absurd hflash h) fun _ => ?_
    refine (hnone _ _ (by rw [hflash]; decide) _).bind fun _ => ?_
    exact hiapsr _ _
  · have hdata : memtype = .eeprom ∨ memtype = .opt := by
      cases memtype with
      | unknown => exact absurd hstored (by decide)
      | ram => exact absurd hstored (by decide)
      | eeprom => exact Or.inl rfl
      | flash => exact absurd rfl hflash
      | opt => exact Or.inr rfl
    rw [if_neg hflash]
    refine (hnone _ _ hflash _).bind fun _ => ?_
    refine Drv.Triple.bind (Drv.Triple.when (fun _ => (hbyte _ d.control_flashDukr _).bind fun _ =>
      hbyte _ d.control_flashDukr _) fun h => absurd hdata h) fun _ => ?_
    exact hiapsr _ _

theorem stlinkEnterBlock_locks (hd : d.Sound) (hstored : memtype.isStored = true) :
    Drv.Triple (fun s => s.target.locks = l) (stlinkEnterBlock d env memtype)
      (fun _ s => s.target.locks = l ∧ s.target.mode = .standard) (fun _ _ => True) := by
  rcases hd.lock_ne with ⟨hcr2, hncr2, -⟩
  rcases hd.ne_cr2 with ⟨-, -, -, -, hne, -⟩
  refine Drv.Triple.when (fun _ => ?_) fun h => absurd hstored h
  refine Drv.Triple.bind (Q := fun _ s => s.target.locks = l ∧ s.target.mode = .standard) ?_
    fun _ => Drv.Triple.when (fun h => ?_) fun _ _ hs => hs
  · have hselect (t : Target) (ht : t.locks = l) : (t.poke d d.regs.flashCr2 0x01).locks = l ∧
        (t.poke d d.regs.flashCr2 0x01).mode = .standard :=
      ⟨by rw [Target.poke_locks hd, ht, Locks.poke_off hcr2], Target.poke_cr2_mode⟩
    exact stlinkSwimWriteByte_poke hd d.control_flashCr2 (P := fun t => t.locks = l)
      (Q := fun t => t.locks = l ∧ t.mode = .standard) hselect fun t ht => hselect t ht.1
  · have hkeep (t : Target) (ht : t.locks = l ∧ t.mode = .standard) :
        (t.poke d d.regs.flashNcr2 0xFE).locks = l ∧
          (t.poke d d.regs.flashNcr2 0xFE).mode = .standard :=
      ⟨by rw [Target.poke_locks hd, ht.1, Locks.poke_off hncr2],
        (Target.poke_mode hne).trans ht.2⟩
    exact stlinkSwimWriteByte_poke hd (d.control_flashNcr2 h)
      (P := fun t => t.locks = l ∧ t.mode = .standard) hkeep hkeep

theorem stlinkWriteRound_locks (hd : d.Sound) (hstored : memtype.isStored = true)
    (buffer : Nat → Byte) {start length j : Nat} (hj : j < blockRounds d length) :
    Drv.Triple (fun s => s.target.locks = l)
      (stlinkWriteRound d env memtype buffer start length (j * d.flashBlockSize))
      (fun _ s => s.target.locks =
        l.pokes d (stlinkBlockPokes d buffer start length (j * d.flashBlockSize)))
      (fun _ _ => True) := by
  have hlen : (stlinkBlock d buffer length (j * d.flashBlockSize)).length = d.flashBlockSize := by
    rw [stlinkBlock_eq buffer (round_start_lt hd hj), Image.slice_length]
  have haddr : u32 (start + j * d.flashBlockSize) % 65536 =
      (start + j * d.flashBlockSize) % 65536 := by
    unfold u32
    omega
  -- the blocks are as aligned as the range is
  have halign : (start + j * d.flashBlockSize) % 65536 % d.flashBlockSize =
      start % d.flashBlockSize := by
    rcases hd.block_size with hb | hb <;> rw [hb] <;> omega
  refine Drv.Triple.ite (fun _ => ?_) fun _ => Drv.Triple.stop fun _ _ => trivial
  apply (stlinkEnterBlock_locks hd hstored).bind
  intro _
  apply Drv.Triple.of_part (P := fun t : Target => t.locks = l ∧ t.mode = .standard)
  intro t ht
  apply (stlinkSwimWriteBlock_spec hlen hd.block_lt).bind
  intro result
  rw [haddr]
  have hprint (u : Target) : Drv.Triple (fun s : StlinkState => s.target = u)
      (Drv.when (result &&& 0x01 ≠ 0) (Drv.change fun s : StlinkState => s.writeError))
      (fun _ s => s.target = u) (fun (_ : StlinkError) _ => True) :=
    Drv.Triple.when (fun _ => Drv.Triple.change fun s hs => hs) fun _ _ hs => hs
  apply (hprint _).post
  intro _ s hs
  rw [hs, Target.write_locks hd, halign, hlen, ht.1, ht.2]
  unfold stlinkBlockPokes
  by_cases haligned : start % d.flashBlockSize = 0
  · rw [if_pos ⟨rfl, haligned, Or.inl rfl⟩, if_pos haligned]
    rfl
  · rw [if_neg fun h => haligned h.2.1, if_neg haligned]

/-- What a write that returns has made of the locks. -/
theorem stlinkSwimWriteRange_locks (hd : d.Sound) (hstored : memtype.isStored = true)
    (buffer : Nat → Byte) (start length : Nat) :
    Drv.Triple (fun s => s.target.locks = l)
      (stlinkSwimWriteRange d env buffer start length memtype)
      (fun _ s => s.target.locks = (l.pokes d (stlinkUnlockPokes d memtype ++
        stlinkDataPokes d buffer start length (blockRounds d length))).poke d
          (d.regs.flashIapsr, 0x56)) (fun _ _ => True) := by
  rcases hd.lock_ne with ⟨-, -, hckdivr, -⟩
  refine (stlinkSession_locks hd).1.bind fun _ => ?_
  refine (stlinkSwimWriteByte_off hd d.control_clkCkdivr hckdivr _).bind fun _ => ?_
  refine (stlinkUnlock_locks hd hstored).bind fun _ => ?_
  have hloop : Drv.Triple
      (fun s => s.target.locks = l.pokes d (stlinkUnlockPokes d memtype ++
        stlinkDataPokes d buffer start length 0))
      (Drv.forFrom (fun j => stlinkWriteRound d env memtype buffer start length
        (j * d.flashBlockSize)) (blockRounds d length) 0)
      (fun _ s => s.target.locks = l.pokes d (stlinkUnlockPokes d memtype ++
        stlinkDataPokes d buffer start length (0 + blockRounds d length)))
      (fun _ _ => True) := by
    refine Drv.Triple.forFrom (I := fun j (s : StlinkState) => s.target.locks =
      l.pokes d (stlinkUnlockPokes d memtype ++ stlinkDataPokes d buffer start length j)) _
      fun j _ hj => ?_
    apply (stlinkWriteRound_locks hd hstored buffer (by omega)).post
    intro _ s hs
    rw [hs, ← Locks.pokes_append, List.append_assoc]
    unfold stlinkDataPokes
    rw [List.range_succ, List.flatMap_append, List.flatMap_singleton]
  rw [Nat.zero_add] at hloop
  have hnone : stlinkUnlockPokes d memtype ++ stlinkDataPokes d buffer start length 0 =
      stlinkUnlockPokes d memtype := List.append_nil _
  rw [hnone] at hloop
  refine hloop.bind fun _ => ?_
  refine Drv.Triple.bind (Drv.Triple.when (fun _ => stlinkSwimWriteByte_locks hd
    d.control_flashIapsr 0x56) fun h => absurd hstored h) fun _ => ?_
  refine (stlinkSession_locks hd).2.bind fun _ => ?_
  exact Drv.Triple.pure fun _ hs => hs

/-- The value that the locks are closed with clears `DUL` and not `PUL`. -/
theorem Locks.stlinkLock_closed (hd : d.Sound) :
    (l.poke d (d.regs.flashIapsr, 0x56)).Closed ↔ l.pul = false := by
  rcases hd.lock_ne with ⟨-, -, -, -, -, hpukr, hdukr, -⟩
  unfold Locks.poke Locks.Closed
  simp only [if_neg hpukr, if_neg hdukr, if_true]
  have hbits : ((0x56 : Byte).toNat.testBit 1, (0x56 : Byte).toNat.testBit 3) = (true, false) := by
    decide
  rw [(Prod.mk.inj hbits).1, (Prod.mk.inj hbits).2]
  simp

/-- Before the blocks only the flash is open. -/
theorem stlinkUnlockPokes_pul (hd : d.Sound) (memtype : Memtype) :
    (l.pokes d (stlinkUnlockPokes d memtype)).pul = decide (memtype = .flash) := by
  unfold stlinkUnlockPokes Locks.pokes
  by_cases hflash : memtype = .flash
  · rw [if_pos hflash, decide_eq_true hflash]
    rcases hd.regs with h | h <;> rw [h] <;> simp [Locks.poke, h, regsSTM8S, regsSTM8L] <;> decide
  · rw [if_neg hflash, decide_eq_false hflash]
    rcases hd.regs with h | h <;> rw [h] <;> simp [Locks.poke, h, regsSTM8S, regsSTM8L]

end Stlink

end Stm8Flash
