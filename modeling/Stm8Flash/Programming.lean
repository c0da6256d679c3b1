import Stm8Flash.Lib.Drv
import Stm8Flash.Lib.Word
import Stm8Flash.Target

/-! # What the back ends that write only differences share

`stlinkv2.c` and `espstlink.c` program in the same way: they read the blocks of the range,
complete the last block of the buffer from what they read, and program each block that
differs, in fast mode where the target is all zero. This file has the pieces that both write
out (`roundedSize`, `mergeTail`, `prgmode`, the waits for `EOP`) and what they mean for the
target.
-/

namespace Stm8Flash

open Hex Word

/-! ## The pieces -/

/-- `memtype == FLASH || memtype == EEPROM`: these are programmed in blocks. -/
def Memtype.isBlock (memtype : Memtype) : Bool := memtype = .flash || memtype = .eeprom

/-- `((length - 1) / device->flash_block_size + 1) * device->flash_block_size` -/
def roundedSize (d : Stm8Device) (length : Nat) : Nat :=
  u32 ((sub32 length 1 / d.flashBlockSize + 1) * d.flashBlockSize)

/-- How often `for(i = 0; i < length; i += device->flash_block_size)` runs its body. -/
def blockRounds (d : Stm8Device) (length : Nat) : Nat :=
  (length + d.flashBlockSize - 1) / d.flashBlockSize

/-- `memcpy(buffer + length, current + length, rounded_size - length)` -/
def mergeTail (buffer current : Nat → Byte) (length roundedSize : Nat) : Nat → Byte :=
  fun k => if length ≤ k ∧ k < roundedSize then current k else buffer k

/-- Fast block programming only where the block of `current` at `i` is all zero. -/
def prgmode (d : Stm8Device) (current : Nat → Byte) (i : Nat) : Byte :=
  if Image.slice current i d.flashBlockSize = List.replicate d.flashBlockSize 0 then 0x10 else 0x01

section Waits

variable {σ ε : Type}

/-- The wait for `EOP` after a block, with `retries` samples left. When they are used up the
program goes on. An `int` is its 32-bit pattern. -/
def waitEop (readIapsr : Drv σ ε Nat) (writeProtected : ε) : Nat → Drv σ ε Unit
  | 0 => pure ()
  | retries + 1 => do
    let iapsr ← readIapsr
    if iapsr &&& 0x04 ≠ 0 then pure ()
    else if iapsr &&& 0x01 ≠ 0 then Drv.stop writeProtected
    else waitEop readIapsr writeProtected retries

/-- `TRY(5, read_byte(FLASH_IAPSR) & 0x04)`, with `c` tries left. -/
def tryEop (readIapsr : Drv σ ε Nat) (triesExceeded : ε) : Nat → Drv σ ε Unit
  | 0 => Drv.stop triesExceeded
  | c + 1 => do
    let iapsr ← readIapsr
    if iapsr &&& 0x04 ≠ 0 then pure () else tryEop readIapsr triesExceeded c

/-- What reading `FLASH_IAPSR` leaves alone, the waits leave alone. -/
theorem waitEop_keeps {β : Type} {f : σ → β} {read : Drv σ ε Nat} (h : Drv.Keeps f read) (err : ε)
    (retries : Nat) : Drv.Keeps f (waitEop read err retries) := by
  induction retries with
  | zero => exact Drv.Keeps.pure ()
  | succ n ih =>
    refine h.bind fun _ => Drv.Keeps.ite (Drv.Keeps.pure ()) ?_
    exact Drv.Keeps.ite (Drv.Keeps.stop err) ih

/-- Where reading `FLASH_IAPSR` adds nothing to a trace, the wait adds nothing. -/
theorem waitEop_emits {β : Type} {f : σ → List β} {read : Drv σ ε Nat} (h : Drv.Emits f read [])
    (err : ε) (retries : Nat) : Drv.Emits f (waitEop read err retries) [] := by
  induction retries with
  | zero => exact Drv.Emits.pure ()
  | succ n ih =>
    refine h.bind_right fun _ => Drv.Emits.ite (fun _ => Drv.Emits.pure ()) fun _ => ?_
    exact Drv.Emits.ite (fun _ => Drv.Emits.stop err) fun _ => ih

/-- What reading `FLASH_IAPSR` preserves, the waits preserve. -/
theorem waitEop_preserves {I : σ → Prop} {read : Drv σ ε Nat} (h : Drv.Preserves I read) (err : ε)
    (retries : Nat) : Drv.Preserves I (waitEop read err retries) := by
  induction retries with
  | zero => exact Drv.Preserves.pure ()
  | succ n ih =>
    refine h.bind fun _ => Drv.Preserves.ite (fun _ => Drv.Preserves.pure ()) fun _ => ?_
    exact Drv.Preserves.ite (fun _ => Drv.Preserves.stop err) fun _ => ih

theorem tryEop_preserves {I : σ → Prop} {read : Drv σ ε Nat} (h : Drv.Preserves I read) (err : ε)
    (c : Nat) : Drv.Preserves I (tryEop read err c) := by
  induction c with
  | zero => exact Drv.Preserves.stop _
  | succ c ih => exact h.bind fun _ => Drv.Preserves.ite (fun _ => Drv.Preserves.pure _) fun _ => ih

theorem tryEop_keeps {β : Type} {f : σ → β} {read : Drv σ ε Nat} (h : Drv.Keeps f read) (err : ε)
    (c : Nat) : Drv.Keeps f (tryEop read err c) := by
  induction c with
  | zero => exact Drv.Keeps.stop err
  | succ n ih => exact h.bind fun _ => Drv.Keeps.ite (Drv.Keeps.pure ()) ih

end Waits

/-! ## Sizes -/

/-- The rounded size in exact arithmetic, below 2^32. -/
theorem roundedSize_eq {d : Stm8Device} (hd : d.Sound) {length : Nat}
    (h : blockRounds d length * d.flashBlockSize < 4294967296) :
    roundedSize d length = blockRounds d length * d.flashBlockSize := by
  unfold roundedSize blockRounds sub32 u32 at *
  rcases hd.block_size with hb | hb <;> rw [hb] at h ⊢ <;> omega

theorem length_le_rounds {d : Stm8Device} (hd : d.Sound) (length : Nat) :
    length ≤ blockRounds d length * d.flashBlockSize := by
  unfold blockRounds
  rcases hd.block_size with hb | hb <;> rw [hb] <;> omega

theorem rounds_lt {d : Stm8Device} (hd : d.Sound) (length : Nat) :
    blockRounds d length * d.flashBlockSize < length + 128 := by
  unfold blockRounds
  rcases hd.block_size with hb | hb <;> rw [hb] <;> omega

theorem round_in_range {d : Stm8Device} {length j : Nat} (h : j < blockRounds d length) :
    j * d.flashBlockSize + d.flashBlockSize ≤ blockRounds d length * d.flashBlockSize := by
  have hle : (j + 1) * d.flashBlockSize ≤ blockRounds d length * d.flashBlockSize :=
    Nat.mul_le_mul_right _ h
  rwa [Nat.add_mul, Nat.one_mul] at hle

/-- A round begins within the length. -/
theorem round_start_lt {d : Stm8Device} (hd : d.Sound) {length j : Nat}
    (h : j < blockRounds d length) : j * d.flashBlockSize < length := by
  unfold blockRounds at h
  rcases hd.block_size with hb | hb <;> rw [hb] at h ⊢ <;> omega

/-! ## What the target is to hold -/

/-- The data after the first `n` bytes of `buffer` have been written at `start`. -/
def written (m buffer : Nat → Byte) (start n : Nat) : Nat → Byte :=
  Image.storeAll m (Image.block start (Image.slice buffer 0 n))

theorem written_zero (m buffer : Nat → Byte) (start : Nat) : written m buffer start 0 = m := rfl

theorem written_add (m buffer : Nat → Byte) (start n k : Nat) :
    written m buffer start (n + k) =
      Image.storeAll (written m buffer start n)
        (Image.block (start + n) (Image.slice buffer n k)) := by
  unfold written
  rw [Image.slice_append, Image.block_append, Image.storeAll_append, Image.slice_length,
    Nat.zero_add]

theorem written_at {m buffer : Nat → Byte} {start n k : Nat} (h : k < n) :
    written m buffer start n (start + k) = buffer k := by
  unfold written
  rw [Image.storeAll_block_slice_at _ _ _ _ _ _ h, Nat.zero_add]

theorem written_off {m buffer : Nat → Byte} {start n a : Nat} (h : a < start ∨ start + n ≤ a) :
    written m buffer start n a = m a := by
  unfold written
  apply Image.storeAll_block_off
  rwa [Image.slice_length]

/-- Writing bytes that the target holds changes nothing. -/
theorem written_same {m buffer : Nat → Byte} {start n k : Nat}
    (h : ∀ j < k, m (start + n + j) = buffer (n + j)) :
    written m buffer start (n + k) = written m buffer start n := by
  rw [written_add]
  apply Image.storeAll_block_self
  intro j hj
  rw [Image.slice_length] at hj
  rw [Image.slice_getElem, written_off (Or.inr (by omega)), h j hj]

/-- A block that is as it was read need not be written. -/
theorem written_skip {m buffer current : Nat → Byte} {start i n : Nat}
    (hcur : ∀ k < n, current (i + k) = m (start + i + k))
    (hsame : Image.slice current i n = Image.slice buffer i n) :
    written m buffer start (i + n) = written m buffer start i := by
  apply written_same
  intro k hk
  rw [← hcur k hk]
  exact (Image.slice_eq_iff _ _ _ _ _).mp hsame k hk

/-- The completed last block writes back what was there. -/
theorem written_mergeTail {m buffer current : Nat → Byte} {start length rounded : Nat}
    (hle : length ≤ rounded) (hcur : ∀ k < rounded, current k = m (start + k)) :
    written m (mergeTail buffer current length rounded) start rounded =
      written m buffer start length := by
  obtain ⟨k, rfl⟩ : ∃ k, rounded = length + k := ⟨rounded - length, by omega⟩
  -- the tail holds what `current` holds, which is what the target holds
  rw [written_same]
  · unfold written
    congr 2
    apply (Image.slice_eq_iff _ _ _ _ _).mpr
    intro j hj
    unfold mergeTail
    rw [if_neg (by omega)]
  · intro j hj
    unfold mergeTail
    rw [if_pos (by omega), hcur _ (by omega), Nat.add_assoc]

/-- A request whose blocks lie below 16 MiB and away from the control registers. -/
structure DataRange (d : Stm8Device) (start length : Nat) : Prop where
  aligned : start % d.flashBlockSize = 0
  below : start + blockRounds d length * d.flashBlockSize ≤ 16777216
  data : ∀ k < blockRounds d length * d.flashBlockSize, ¬d.IsControl (start + k)

/-- What a write is for: the range holds the buffer, and every other data byte is as before. -/
structure Wrote (d : Stm8Device) (before after : Target) (buffer : Nat → Byte)
    (start length : Nat) : Prop where
  range : ∀ k < length, after.mem (start + k) = buffer k
  frame : ∀ a, ¬d.IsControl a → a < start ∨ start + length ≤ a → after.mem a = before.mem a

theorem DataRange.data_at {d : Stm8Device} (hd : d.Sound) {start length : Nat}
    (h : DataRange d start length) {k : Nat} (hk : k < length) : ¬d.IsControl (start + k) := by
  have hle := length_le_rounds hd length
  exact h.data k (by omega)

/-- Above the registers every request is one for data. -/
theorem DataRange.of_flash {d : Stm8Device} (hd : d.Sound) {start length : Nat}
    (hstart : 0x8000 ≤ start) (haligned : start % d.flashBlockSize = 0)
    (hbelow : start + blockRounds d length * d.flashBlockSize ≤ 16777216) :
    DataRange d start length where
  aligned := haligned
  below := hbelow
  data := by
    intro k _ hctl
    have hlt := hd.control_lt hctl
    omega

/-- A target that holds the written data has been written. -/
theorem Wrote.of_holds {d : Stm8Device} (hd : d.Sound) {before after : Target}
    {buffer : Nat → Byte} {start length : Nat} (hreq : DataRange d start length)
    (h : after.Holds d (written before.mem buffer start length)) :
    Wrote d before after buffer start length where
  range := by
    intro k hk
    rw [h _ (hreq.data_at hd hk), written_at hk]
  frame := by
    intro a ha hout
    rw [h a ha, written_off hout]

/-! ## One block -/

/-- What selecting a mode and writing a block does: the mode is selected by a write to
`FLASH_CR2` (and `FLASH_NCR2`), the block follows. -/
theorem target_block {t : Target} {d : Stm8Device} {m buffer current : Nat → Byte}
    {start i : Nat} (h : t.Holds d (written m buffer start i))
    (hm : t.mode = progMode (prgmode d current i))
    (ha : (start + i) % d.flashBlockSize = 0)
    (hdata : ∀ k < d.flashBlockSize, ¬d.IsControl (start + i + k))
    (hcur : ∀ k < d.flashBlockSize, current (i + k) = m (start + i + k)) :
    (t.write d (start + i) (Image.slice buffer i d.flashBlockSize)).Holds d
        (written m buffer start (i + d.flashBlockSize)) ∧
      (t.write d (start + i) (Image.slice buffer i d.flashBlockSize)).mode = .byte ∧
      (t.write d (start + i) (Image.slice buffer i d.flashBlockSize)).ops = t.ops + 1 ∧
      (t.write d (start + i) (Image.slice buffer i d.flashBlockSize)).iapsrReads = 0 := by
  rw [written_add]
  unfold prgmode at hm
  by_cases hzero : Image.slice current i d.flashBlockSize = List.replicate d.flashBlockSize 0
  · -- fast mode was chosen because the old block is all zero
    rw [if_pos hzero] at hm
    refine Target.write_fast h hm (by simp) ha (by simpa using hdata) ?_
    intro k hk
    rw [Image.slice_length] at hk
    have hk0 := congrArg (fun l => l[k]?) hzero
    rw [written_off (Or.inr (by omega)), ← hcur k hk]
    simpa [Image.slice, hk] using hk0
  · rw [if_neg hzero] at hm
    exact Target.write_standard h hm (by simp) ha

/-- Where no mode waits for it, a block is stored byte by byte. -/
theorem target_bytes {t : Target} {d : Stm8Device} {m buffer : Nat → Byte} {start i : Nat}
    (h : t.Holds d (written m buffer start i)) (hc : t.Clear)
    (hdata : ∀ k < d.flashBlockSize, ¬d.IsControl (start + i + k)) :
    Target.Ready d (written m buffer start (i + d.flashBlockSize))
      (t.write d (start + i) (Image.slice buffer i d.flashBlockSize)) := by
  rw [Target.write_clear hc, written_add]
  refine ⟨Target.pokes_holds _ h, ?_⟩
  unfold Target.Clear
  rw [Target.pokes_mode _ (by simpa using hdata)]
  exact hc

/-- The mode in which the block at `i` is sent. -/
def BlockMode (d : Stm8Device) (memtype : Memtype) (m current : Nat → Byte) (i : Nat)
    (t : Target) : Prop :=
  t.Holds d m ∧ if memtype.isBlock then t.mode = progMode (prgmode d current i) else t.Clear

/-- A read of data does not touch `FLASH_IAPSR`. -/
theorem Target.afterRead_data {t : Target} {d : Stm8Device} {a n : Nat}
    (ha : ∀ k < n, ¬d.IsControl (a + k)) : t.afterRead d a n = t := by
  unfold Target.afterRead
  rw [if_neg]
  intro h
  apply ha (d.regs.flashIapsr - a) (by omega)
  rw [Nat.add_sub_of_le h.1]
  exact d.control_flashIapsr

section Registers

variable {σ ε α : Type} {tgt : σ → Target} {d : Stm8Device} {hw : Hardware} {m : Nat → Byte}
  {mode : ProgMode}

/-- A program that leaves the data and the mode alone leaves the target ready. -/
theorem ready_of_inMode {prog : Drv σ ε α} {E : ε → σ → Prop}
    (h : ∀ mode, Drv.Triple (fun s => Target.InMode d m mode (tgt s)) prog
      (fun _ s => Target.InMode d m mode (tgt s)) E) :
    Drv.Triple (fun s => Target.Ready d m (tgt s)) prog
      (fun _ s => Target.Ready d m (tgt s)) E := by
  intro s hs
  refine ((h (tgt s).mode).post fun v u hu => ?_) s ⟨hs.1, rfl⟩
  -- the mode is the one it was before
  refine ⟨hu.1, ?_⟩
  unfold Target.Clear
  rw [hu.2]
  exact hs.2

/-- Selecting the mode, where the block needs one. -/
theorem enterBlock_spec {memtype : Memtype} {current : Nat → Byte} {i : Nat}
    {enter : Drv σ ε Unit} {E : ε → σ → Prop}
    (h : ∀ mode, Drv.Triple (fun s => Target.InMode d m mode (tgt s)) enter
      (fun _ s => Target.InMode d m (progMode (prgmode d current i)) (tgt s)) E) :
    Drv.Triple (fun s => Target.Ready d m (tgt s)) (if memtype.isBlock then enter else pure ())
      (fun _ s => BlockMode d memtype m current i (tgt s)) E := by
  unfold BlockMode
  refine Drv.Triple.ite (fun hblock => ?_) fun hno => ?_
  · intro s hs
    refine ((h (tgt s).mode).post fun _ u hu => ?_) s ⟨hs.1, rfl⟩
    rw [if_pos hblock]
    exact hu
  · refine Drv.Triple.pure fun s hs => ?_
    rw [if_neg hno]
    exact hs

/-- The program writes a byte to a control register, or stops in `E`. -/
def WritesRegs (tgt : σ → Target) (d : Stm8Device) (E : ε → σ → Prop)
    (write : Byte → Nat → Drv σ ε α) : Prop :=
  ∀ t v a, d.IsControl a → Drv.Triple (fun s => tgt s = t) (write v a)
    (fun _ s => tgt s = t.poke d a v) E

/-- The program reads a control register, and does not stop. -/
def ReadsRegs (tgt : σ → Target) (d : Stm8Device) (hw : Hardware) (read : Nat → Drv σ ε Nat) :
    Prop :=
  ∀ t a, d.IsControl a → Drv.Triple (fun s => tgt s = t) (read a)
    (fun v s => v = (t.peek d hw a).toNat ∧ tgt s = t.afterRead d a 1) (fun _ _ => False)

/-- A write to a control register other than `FLASH_CR2`. -/
theorem WritesRegs.control {write : Byte → Nat → Drv σ ε α} {E : ε → σ → Prop}
    (h : WritesRegs tgt d E write) {a : Nat} (ha : d.IsControl a) (hne : a ≠ d.regs.flashCr2)
    (v : Byte) :
    Drv.Triple (fun s => Target.InMode d m mode (tgt s)) (write v a)
      (fun _ s => Target.InMode d m mode (tgt s)) E := by
  apply Drv.Triple.of_part
  intro t ht
  apply (h t v a ha).post
  intro _ s hs
  rw [hs]
  exact ⟨ht.1.poke_control ha, (Target.poke_mode hne).trans ht.2⟩

/-- A write to `FLASH_CR2` selects a mode. -/
theorem WritesRegs.cr2 {write : Byte → Nat → Drv σ ε α} {E : ε → σ → Prop}
    (h : WritesRegs tgt d E write) (v : Byte) :
    Drv.Triple (fun s => Target.InMode d m mode (tgt s)) (write v d.regs.flashCr2)
      (fun _ s => Target.InMode d m (progMode v) (tgt s)) E := by
  apply Drv.Triple.of_part
  intro t ht
  apply (h t v _ d.control_flashCr2).post
  intro _ s hs
  rw [hs]
  exact ⟨ht.1.poke_control d.control_flashCr2, Target.poke_cr2_mode⟩

theorem ReadsRegs.control {read : Nat → Drv σ ε Nat} (h : ReadsRegs tgt d hw read) {a : Nat}
    (ha : d.IsControl a) :
    Drv.Triple (fun s => Target.InMode d m mode (tgt s)) (read a)
      (fun _ s => Target.InMode d m mode (tgt s)) (fun _ _ => False) := by
  apply Drv.Triple.of_part
  intro t ht
  apply (h t a ha).post
  intro _ s hs
  rw [hs.2]
  exact ⟨ht.1.afterRead 1, (Target.afterRead_mode 1).trans ht.2⟩

end Registers

/-! ## The waits -/

/-- Every wait sees `EOP`: among the five readings after each programming operation there is
one with `EOP`, and none before it reports a protected page. -/
def Hardware.SeesEop (hw : Hardware) : Prop :=
  ∀ n, 0 < n → ∃ j < 5, (hw.status n j).eop = true ∧ ∀ i < j, (hw.status n i).wrPgDis = false

/-- The target after some readings of `FLASH_IAPSR`. -/
def Target.withReads (t : Target) (r : Nat) : Target := { t with iapsrReads := r }

theorem Target.afterRead_iapsr (t : Target) (d : Stm8Device) :
    t.afterRead d d.regs.flashIapsr 1 = t.withReads (t.iapsrReads + 1) := by
  unfold Target.afterRead
  rw [if_pos ⟨Nat.le_refl _, Nat.lt_succ_self _⟩]
  rfl

theorem Target.peek_iapsr (t : Target) (d : Stm8Device) (hw : Hardware) :
    t.peek d hw d.regs.flashIapsr = t.iapsr (hw.status t.ops t.iapsrReads) := by
  unfold Target.peek
  rw [if_pos rfl]

section WaitSpecs

variable {σ ε : Type} {tgt : σ → Target} {d : Stm8Device} {hw : Hardware}

/-- The program reads `FLASH_IAPSR` and does not stop. -/
def ReadsIapsr (tgt : σ → Target) (d : Stm8Device) (hw : Hardware) (read : Drv σ ε Nat) : Prop :=
  ∀ t, Drv.Triple (fun w => tgt w = t) read
    (fun v w => v = (t.peek d hw d.regs.flashIapsr).toNat ∧
      tgt w = t.afterRead d d.regs.flashIapsr 1) (fun _ _ => False)

/-- A wait that is to see `EOP` within the samples left returns, and leaves the target as it is. -/
theorem waitEop_spec {read : Drv σ ε Nat} (hread : ReadsIapsr tgt d hw read) (err : ε)
    (retries : Nat) (t : Target) (j : Nat) (hj : t.iapsrReads ≤ j)
    (hlt : j < t.iapsrReads + retries) (heop : (hw.status t.ops j).eop = true)
    (hwr : ∀ i, t.iapsrReads ≤ i → i < j → (hw.status t.ops i).wrPgDis = false) :
    Drv.Triple (fun w => tgt w = t) (waitEop read err retries)
      (fun _ w => ∃ r, tgt w = t.withReads r) (fun _ _ => False) := by
  induction retries generalizing t with
  | zero => omega
  | succ n ih =>
    refine Drv.Triple.bind (hread t) fun v => Drv.Triple.and_pre fun hv => ?_
    rw [hv, Target.peek_iapsr, Target.afterRead_iapsr]
    refine Drv.Triple.ite (fun _ => Drv.Triple.pure fun w hw' => ⟨_, hw'⟩) fun hno => ?_
    -- no EOP yet, so the sample that has it comes later
    have hnot : (hw.status t.ops t.iapsrReads).eop ≠ true :=
      fun he => hno ((t.iapsr_eop _).mpr he)
    have hne : t.iapsrReads ≠ j := fun e => hnot (e ▸ heop)
    refine Drv.Triple.ite (fun hprot => ?_) fun _ => ?_
    · have hfalse := hwr t.iapsrReads (Nat.le_refl _) (by omega)
      have htrue := (t.iapsr_wrPgDis _).mp hprot
      rw [hfalse] at htrue
      cases htrue
    · have hreads : (t.withReads (t.iapsrReads + 1)).iapsrReads = t.iapsrReads + 1 := rfl
      exact ih (t.withReads (t.iapsrReads + 1)) (by omega) (by omega) heop
        fun i hi hij => hwr i (by omega) hij

theorem tryEop_spec {read : Drv σ ε Nat} (hread : ReadsIapsr tgt d hw read) (err : ε)
    (c : Nat) (t : Target) (j : Nat) (hj : t.iapsrReads ≤ j) (hlt : j < t.iapsrReads + c)
    (heop : (hw.status t.ops j).eop = true) :
    Drv.Triple (fun w => tgt w = t) (tryEop read err c)
      (fun _ w => ∃ r, tgt w = t.withReads r) (fun _ _ => False) := by
  induction c generalizing t with
  | zero => omega
  | succ n ih =>
    apply Drv.Triple.bind (hread t)
    intro v
    apply Drv.Triple.and_pre
    intro hv
    rw [hv, Target.peek_iapsr, Target.afterRead_iapsr]
    apply Drv.Triple.ite (fun _ => Drv.Triple.pure fun w hw' => ⟨_, hw'⟩)
    intro hno
    -- no EOP yet, so the sample that has it comes later
    have hnot : (hw.status t.ops t.iapsrReads).eop ≠ true :=
      fun he => hno ((t.iapsr_eop _).mpr he)
    have hne : t.iapsrReads ≠ j := fun e => hnot (e ▸ heop)
    have hreads : (t.withReads (t.iapsrReads + 1)).iapsrReads = t.iapsrReads + 1 := rfl
    exact ih (t.withReads (t.iapsrReads + 1)) (by omega) (by omega) heop

/-- Both waits, right after a programming operation. -/
theorem waitEop_five {read : Drv σ ε Nat} (hread : ReadsIapsr tgt d hw read) (err : ε)
    (hsees : hw.SeesEop) {t : Target} (hops : 0 < t.ops) (hreads : t.iapsrReads = 0) :
    Drv.Triple (fun w => tgt w = t) (waitEop read err 5)
      (fun _ w => ∃ r, tgt w = t.withReads r) (fun _ _ => False) := by
  rcases hsees t.ops hops with ⟨j, hj, heop, hwr⟩
  exact waitEop_spec hread err 5 t j (by omega) (by omega) heop fun i _ hij => hwr i hij

theorem tryEop_five {read : Drv σ ε Nat} (hread : ReadsIapsr tgt d hw read) (err : ε)
    (hsees : hw.SeesEop) {t : Target} (hops : 0 < t.ops) (hreads : t.iapsrReads = 0) :
    Drv.Triple (fun w => tgt w = t) (tryEop read err 5)
      (fun _ w => ∃ r, tgt w = t.withReads r) (fun _ _ => False) := by
  rcases hsees t.ops hops with ⟨j, hj, heop, -⟩
  exact tryEop_spec hread err 5 t j (by omega) (by omega) heop

theorem ReadsRegs.iapsr {read : Nat → Drv σ ε Nat} (h : ReadsRegs tgt d hw read) :
    ReadsIapsr tgt d hw (read d.regs.flashIapsr) :=
  fun t => h t _ d.control_flashIapsr

/-- One option byte: a write to its address and the wait for `EOP`. -/
theorem optByte_spec {α : Type} {read : Drv σ ε Nat} {write : Drv σ ε α} {m buffer : Nat → Byte}
    {start j : Nat} (hread : ReadsIapsr tgt d hw read)
    (hwrite : ∀ t, Drv.Triple (fun s => tgt s = t) write
      (fun _ s => tgt s = t.poke d (start + j) (buffer j)) (fun _ _ => False))
    (err : ε) (hsees : hw.SeesEop) (hctl : ¬d.IsControl (start + j)) :
    Drv.Triple (fun s => Target.InMode d (written m buffer start j) .option (tgt s))
      (write >>= fun _ => tryEop read err 5)
      (fun _ s => Target.InMode d (written m buffer start (j + 1)) .option (tgt s))
      (fun _ _ => False) := by
  have hcr2 : start + j ≠ d.regs.flashCr2 := fun e => hctl (e ▸ d.control_flashCr2)
  apply Drv.Triple.of_part
  intro t ht
  -- the byte itself is the programming operation whose end is awaited
  have hpoke := Target.poke_option (v := buffer j) ht.2 hctl
  rcases hpoke with ⟨hops, hreads⟩
  apply (hwrite t).bind
  intro _
  apply (tryEop_five hread err hsees (by omega) hreads).post
  intro _ s hs
  rcases hs with ⟨r, hr⟩
  rw [hr]
  constructor
  · rw [written_add]
    exact ht.1.poke
  · exact (Target.poke_mode hcr2).trans ht.2

/-- A block has been sent: after the wait, where there is one, the target is ready again. -/
theorem waitBlock_spec {read : Drv σ ε Nat} {memtype : Memtype} {m buffer current : Nat → Byte}
    {start i : Nat} {t : Target} (hread : ReadsIapsr tgt d hw read) (err : ε)
    (hsees : hw.SeesEop) (ht : BlockMode d memtype (written m buffer start i) current i t)
    (halign : (start + i) % d.flashBlockSize = 0)
    (ha : ∀ k < d.flashBlockSize, ¬d.IsControl (start + i + k))
    (hcur : ∀ k < d.flashBlockSize, current (i + k) = m (start + i + k)) :
    Drv.Triple
      (fun s => tgt s = t.write d (start + i) (Image.slice buffer i d.flashBlockSize))
      (if memtype.isBlock then waitEop read err 5 else pure ())
      (fun _ s => Target.Ready d (written m buffer start (i + d.flashBlockSize)) (tgt s))
      (fun _ _ => False) := by
  rcases ht with ⟨hholds, hmode⟩
  refine Drv.Triple.ite (fun hblock => ?_) fun hno => ?_
  · rw [if_pos hblock] at hmode
    rcases target_block hholds hmode halign ha hcur with ⟨hdata, hbyte, hops, hreads⟩
    refine (waitEop_five hread err hsees (by omega) hreads).post fun _ s hs => ?_
    rcases hs with ⟨r, hr⟩
    rw [hr]
    exact ⟨hdata, Or.inl hbyte⟩
  · rw [if_neg hno] at hmode
    refine Drv.Triple.pure fun s hs => ?_
    rw [hs]
    exact target_bytes hholds hmode ha

end WaitSpecs

/-! ## Hardware that works -/

/-- Hardware that shows `EOP` at once. -/
def Hardware.ready : Hardware where
  status := fun _ _ => ⟨false, true, 0⟩

theorem Hardware.ready_seesEop : Hardware.ready.SeesEop := by
  intro n _
  exact ⟨0, by decide, rfl, fun i hi => absurd hi (Nat.not_lt_zero i)⟩

/-- Hardware that never shows `EOP`, nor anything else. -/
def Hardware.silent : Hardware where
  status := fun k i => { Hardware.ready.status k i with eop := false }

/-- A target with the memory `mem`, waiting for nothing. -/
def Target.idle (mem : Nat → Byte) : Target where
  mem := mem
  mode := .byte
  pul := false
  dul := false
  pukr := 0
  dukr := 0
  ops := 0
  iapsrReads := 0

end Stm8Flash
