import Stm8Flash.Programming

/-! # The locks of the flash and of the data memory

`PUL` and `DUL` follow the bytes that are written to `FLASH_PUKR`, `FLASH_DUKR` and
`FLASH_IAPSR`, and nothing else: `Locks` is that part of the target on its own, and a byte or a
block written to the target does to it what `Locks.poke` says.
-/

namespace Stm8Flash

open Hex Word

/-! ## The state of the locks -/

/-- The two unlock bits and the key written last to either key register. -/
structure Locks where
  pul : Bool
  pukr : Byte
  dul : Bool
  dukr : Byte
deriving DecidableEq, Repr

def Target.locks (t : Target) : Locks := ⟨t.pul, t.pukr, t.dul, t.dukr⟩

/-- Neither memory can be written. -/
def Locks.Closed (l : Locks) : Prop := l.pul = false ∧ l.dul = false

instance (l : Locks) : Decidable l.Closed := inferInstanceAs (Decidable (_ ∧ _))

/-- The registers that the locks look at. -/
def Stm8Device.IsLock (d : Stm8Device) (a : Nat) : Prop :=
  a = d.regs.flashPukr ∨ a = d.regs.flashDukr ∨ a = d.regs.flashIapsr

instance (d : Stm8Device) (a : Nat) : Decidable (d.IsLock a) :=
  inferInstanceAs (Decidable (_ ∨ _))

namespace Locks

variable (d : Stm8Device)

/-- One byte written to the address `p.1`. -/
def poke (l : Locks) (p : Nat × Byte) : Locks :=
  if p.1 = d.regs.flashPukr then
    { l with pul := l.pul || (l.pukr = 0x56 && p.2 = 0xae), pukr := p.2 }
  else if p.1 = d.regs.flashDukr then
    { l with dul := l.dul || (l.dukr = 0xae && p.2 = 0x56), dukr := p.2 }
  else if p.1 = d.regs.flashIapsr then
    { l with pul := l.pul && p.2.toNat.testBit 1, dul := l.dul && p.2.toNat.testBit 3 }
  else l

/-- Bytes written in order. -/
def pokes (l : Locks) (ps : List (Nat × Byte)) : Locks := ps.foldl (poke d) l

variable {d} {l : Locks}

theorem pokes_append (l : Locks) (ps qs : List (Nat × Byte)) :
    l.pokes d (ps ++ qs) = (l.pokes d ps).pokes d qs := List.foldl_append

theorem poke_off {p : Nat × Byte} (h : ¬d.IsLock p.1) : l.poke d p = l := by
  unfold Stm8Device.IsLock at h
  simp only [not_or] at h
  unfold poke
  rw [if_neg h.1, if_neg h.2.1, if_neg h.2.2]

theorem pokes_off {ps : List (Nat × Byte)} (h : ∀ p ∈ ps, ¬d.IsLock p.1) : l.pokes d ps = l := by
  induction ps generalizing l with
  | nil => rfl
  | cons p ps ih =>
    show (l.poke d p).pokes d ps = l
    rw [poke_off (h p List.mem_cons_self)]
    exact ih fun q hq => h q (List.mem_cons_of_mem p hq)

/-- A byte that is written again changes nothing: no key follows itself. -/
theorem poke_again (p : Nat × Byte) : (l.poke d p).poke d p = l.poke d p := by
  have hkeys : ¬(p.2 = 0x56 ∧ p.2 = 0xae) := fun h => by
    rw [h.1] at h
    exact absurd h.2 (by decide)
  unfold poke
  by_cases hpukr : p.1 = d.regs.flashPukr
  · simp only [if_pos hpukr]
    simp
    intro h h'
    exact absurd ⟨h, h'⟩ hkeys
  · by_cases hdukr : p.1 = d.regs.flashDukr
    · simp only [if_neg hpukr, if_pos hdukr]
      simp
      intro h h'
      exact absurd ⟨h', h⟩ hkeys
    · by_cases hiapsr : p.1 = d.regs.flashIapsr
      · simp only [if_neg hpukr, if_neg hdukr, if_pos hiapsr]
        simp
      · simp only [if_neg hpukr, if_neg hdukr, if_neg hiapsr]

end Locks

/-- `FLASH_CR2` is none of the lock registers, and they are three. -/
theorem Stm8Device.Sound.lock_ne {d : Stm8Device} (hd : d.Sound) :
    ¬d.IsLock d.regs.flashCr2 ∧ ¬d.IsLock d.regs.flashNcr2 ∧ ¬d.IsLock d.regs.clkCkdivr ∧
      ¬d.IsLock d.regs.flashDmCsr2 ∧ ¬d.IsLock 0x7f80 ∧
      d.regs.flashIapsr ≠ d.regs.flashPukr ∧ d.regs.flashIapsr ≠ d.regs.flashDukr ∧
      d.regs.flashDukr ≠ d.regs.flashPukr := by
  unfold Stm8Device.IsLock
  rcases hd.regs with h | h <;> rw [h] <;> decide

/-! ## The locks of the target -/

namespace Target

variable {t : Target} {d : Stm8Device} {a : Nat}

theorem poke_locks (hd : d.Sound) (v : Byte) : (t.poke d a v).locks = t.locks.poke d (a, v) := by
  have hcr2 := hd.lock_ne.1
  unfold poke Locks.poke locks
  by_cases ha : a = d.regs.flashCr2
  · -- selecting a mode does not show
    subst ha
    unfold Stm8Device.IsLock at hcr2
    simp only [not_or] at hcr2
    simp only [if_true, if_neg hcr2.1, if_neg hcr2.2.1, if_neg hcr2.2.2]
  · simp only [if_neg ha]
    split_ifs <;> rfl

theorem pokes_locks (hd : d.Sound) (data : List Byte) :
    (t.pokes d a data).locks = t.locks.pokes d (Image.block a data) := by
  induction data generalizing t a with
  | nil => rfl
  | cons v vs ih =>
    show ((t.poke d a v).pokes d (a + 1) vs).locks = _
    rw [ih, poke_locks hd]
    rfl

/-- A block that is programmed does not show, also where it goes over a register. -/
theorem write_locks (hd : d.Sound) (data : List Byte) :
    (t.write d a data).locks = if data.length = d.flashBlockSize ∧ a % d.flashBlockSize = 0 ∧
      (t.mode = .standard ∨ t.mode = .fast) then t.locks
    else t.locks.pokes d (Image.block a data) := by
  unfold write
  by_cases hstandard : data.length = d.flashBlockSize ∧ a % d.flashBlockSize = 0 ∧
      t.mode = .standard
  · rw [if_pos hstandard, if_pos ⟨hstandard.1, hstandard.2.1, Or.inl hstandard.2.2⟩]
    rfl
  · rw [if_neg hstandard]
    by_cases hfast : data.length = d.flashBlockSize ∧ a % d.flashBlockSize = 0 ∧ t.mode = .fast
    · rw [if_pos hfast, if_pos ⟨hfast.1, hfast.2.1, Or.inr hfast.2.2⟩]
      rfl
    · rw [if_neg hfast, if_neg fun h => h.2.2.elim (fun hm => hstandard ⟨h.1, h.2.1, hm⟩)
        fun hm => hfast ⟨h.1, h.2.1, hm⟩]
      exact pokes_locks hd data

theorem afterRead_locks (n : Nat) : (t.afterRead d a n).locks = t.locks := by
  unfold afterRead
  split <;> rfl

end Target

/-! ## What the locks hold back -/

/-- The byte `a` takes a write: one of the program memory when `PUL` is set, one of the data EEPROM
when `DUL` is set, an option byte when `DUL` is set and `OPT` is selected, any other always. -/
def Stm8Device.Takes (d : Stm8Device) (l : Locks) (mode : ProgMode) (a : Nat) : Prop :=
  (d.flashStart ≤ a ∧ a < d.flashStart + d.flashSize → l.pul = true) ∧
    (d.eepromStart ≤ a ∧ a < d.eepromStart + d.eepromSize → l.dul = true) ∧
    (0x4800 ≤ a ∧ a < 0x4880 → l.dul = true ∧ mode = .option)

instance (d : Stm8Device) (l : Locks) (mode : ProgMode) (a : Nat) : Decidable (d.Takes l mode a) :=
  inferInstanceAs (Decidable (_ ∧ _))

/-- The control registers lie outside the memories that are locked. -/
theorem Stm8Device.takes_control {d : Stm8Device} (hd : d ∈ stm8Devices) {a : Nat}
    (ha : d.IsControl a) (l : Locks) (mode : ProgMode) : d.Takes l mode a := by
  have hall : ∀ d ∈ stm8Devices, 0x8000 ≤ d.flashStart ∧
      (d.eepromStart + d.eepromSize ≤ 0x5000 ∨ d.eepromSize = 0) := by decide
  have hlt := (stm8Devices_sound d hd).control_lt ha
  have hge := (stm8Devices_sound d hd).le_control ha
  rcases hall d hd with ⟨hflash, heeprom⟩
  refine ⟨fun h => ?_, fun h => ?_, fun h => ?_⟩ <;> omega

/-- What a command leaves of the target `t` when its locked memories keep their bytes; `t'` is the
target with all of them stored. -/
def Target.heldBack (t : Target) (d : Stm8Device) (t' : Target) : Target :=
  { t' with mem := fun a => if d.Takes t.locks t.mode a then t'.mem a else t.mem a }

namespace Target

variable {t t' : Target} {d : Stm8Device} {a : Nat}

theorem heldBack_mem :
    (t.heldBack d t').mem a = if d.Takes t.locks t.mode a then t'.mem a else t.mem a := rfl

@[simp] theorem heldBack_locks : (t.heldBack d t').locks = t'.locks := rfl

/-- A byte that is not written is not held back either. -/
theorem heldBack_mem_of_eq (h : t'.mem a = t.mem a) : (t.heldBack d t').mem a = t.mem a := by
  rw [heldBack_mem, h, ite_self]

/-- Nothing is held back where no other byte has been written. -/
theorem heldBack_of_takes (htakes : d.Takes t.locks t.mode a)
    (h : ∀ x, x ≠ a → t'.mem x = t.mem x) : t.heldBack d t' = t' := by
  have hmem : (fun x => if d.Takes t.locks t.mode x then t'.mem x else t.mem x) = t'.mem := by
    funext x
    by_cases hx : x = a
    · rw [hx, if_pos htakes]
    · rw [h x hx, ite_self]
  unfold heldBack
  rw [hmem]

theorem heldBack_self : t.heldBack d t = t := by
  have hmem : (fun a => if d.Takes t.locks t.mode a then t.mem a else t.mem a) = t.mem :=
    funext fun a => ite_self _
  unfold heldBack
  rw [hmem]

end Target

/-! ## Closing the locks -/

/-- What was read from `FLASH_IAPSR`, with the two bits reset. -/
theorem Locks.masked_closed {d : Stm8Device} (hd : d.Sound) (l : Locks) (iapsr : Nat) :
    (l.poke d (d.regs.flashIapsr, UInt8.ofNat (iapsr &&& 0xfffffff5))).Closed := by
  rcases hd.lock_ne with ⟨-, -, -, -, -, hpukr, hdukr, -⟩
  have hbit (k : Nat) (hk : Nat.testBit 0xfffffff5 k = false) :
      (UInt8.ofNat (iapsr &&& 0xfffffff5)).toNat.testBit k = false := by
    rw [UInt8.toNat_ofNat', Nat.testBit_mod_two_pow, Nat.testBit_and, hk, Bool.and_false,
      Bool.and_false]
  unfold Locks.poke Locks.Closed
  simp only [if_neg hpukr, if_neg hdukr, if_true]
  rw [hbit 1 (by decide), hbit 3 (by decide), Bool.and_false, Bool.and_false]
  exact ⟨rfl, rfl⟩

end Stm8Flash
