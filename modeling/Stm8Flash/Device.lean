import Mathlib.Data.List.Basic

/-! # The supported devices

`stm8.h` and the table of `stm8.c`, and the few facts about the table that the back
ends rely on (`Stm8Device.Sound`, `stm8Devices_sound`).
-/

namespace Stm8Flash

/-- `memtype_t` -/
inductive Memtype where
  | unknown
  | ram
  | eeprom
  | flash
  | opt
deriving DecidableEq, Repr

/-- `stm8_regs_t` -/
structure Stm8Regs where
  clkCkdivr : Nat
  flashPukr : Nat
  flashDukr : Nat
  flashIapsr : Nat
  flashCr2 : Nat
  flashNcr2 : Nat
  flashDmCsr2 : Nat
deriving DecidableEq, Repr

/-- `ROP_type_t` -/
inductive RopType where
  | unknown
  | stm8s
  | stm8l
deriving DecidableEq, Repr

/-- `stm8_device_t` -/
structure Stm8Device where
  name : String
  ramStart : Nat
  ramSize : Nat
  eepromStart : Nat
  eepromSize : Nat
  flashStart : Nat
  flashSize : Nat
  flashBlockSize : Nat
  optionBytesSize : Nat
  readOutProtectionMode : RopType
  regs : Stm8Regs
deriving DecidableEq, Repr

/-- `REGS_STM8S` -/
def regsSTM8S : Stm8Regs where
  clkCkdivr := 0x50c6
  flashPukr := 0x5062
  flashDukr := 0x5064
  flashIapsr := 0x505f
  flashCr2 := 0x505b
  flashNcr2 := 0x505c
  flashDmCsr2 := 0x7F99

/-- `REGS_STM8L`: these parts have no `FLASH_NCR2`. -/
def regsSTM8L : Stm8Regs where
  clkCkdivr := 0x50c0
  flashPukr := 0x5052
  flashDukr := 0x5053
  flashIapsr := 0x5054
  flashCr2 := 0x5051
  flashNcr2 := 0x0000
  flashDmCsr2 := 0x7F99

/-- `stm8_devices`, without the terminating entry; the fields stand in the order of
`Stm8Device`, and 1536 is `1.5*1024`. -/
def stm8Devices : List Stm8Device := [
  ⟨"stlux385", 0x0000, 2 * 1024, 0x4000, 1024, 0x8000, 32 * 1024, 128, 128, .stm8s, regsSTM8S⟩,
  ⟨"stlux???a", 0x0000, 2 * 1024, 0x4000, 1024, 0x8000, 32 * 1024, 128, 128, .stm8s, regsSTM8S⟩,
  ⟨"stm8af526?", 0x0000, 6 * 1024, 0x4000, 1024, 0x8000, 32 * 1024, 128, 0, .unknown, regsSTM8S⟩,
  ⟨"stm8af528?", 0x0000, 6 * 1024, 0x4000, 2048, 0x8000, 64 * 1024, 128, 0, .unknown, regsSTM8S⟩,
  ⟨"stm8af52a?", 0x0000, 6 * 1024, 0x4000, 2048, 0x8000, 128 * 1024, 128, 128, .stm8s, regsSTM8S⟩,
  ⟨"stm8af6213", 0x0000, 1 * 1024, 0x4000, 640, 0x8000, 4 * 1024, 64, 0, .unknown, regsSTM8S⟩,
  ⟨"stm8af6223", 0x0000, 1 * 1024, 0x4000, 640, 0x8000, 8 * 1024, 64, 0, .unknown, regsSTM8S⟩,
  ⟨"stm8af6223a", 0x0000, 1 * 1024, 0x4000, 640, 0x8000, 8 * 1024, 64, 0, .unknown, regsSTM8S⟩,
  ⟨"stm8af6226", 0x0000, 2 * 1024, 0x4000, 640, 0x8000, 8 * 1024, 64, 0, .unknown, regsSTM8S⟩,
  ⟨"stm8af624?", 0x0000, 2 * 1024, 0x4000, 512, 0x8000, 16 * 1024, 128, 0, .unknown, regsSTM8S⟩,
  ⟨"stm8af6266", 0x0000, 2 * 1024, 0x4000, 1024, 0x8000, 32 * 1024, 128, 0, .unknown, regsSTM8S⟩,
  ⟨"stm8af6268", 0x0000, 2 * 1024, 0x4000, 1024, 0x8000, 32 * 1024, 128, 0, .unknown, regsSTM8S⟩,
  ⟨"stm8af6269", 0x0000, 6 * 1024, 0x4000, 1024, 0x8000, 32 * 1024, 128, 0, .unknown, regsSTM8S⟩,
  ⟨"stm8af628?", 0x0000, 6 * 1024, 0x4000, 2048, 0x8000, 64 * 1024, 128, 0, .unknown, regsSTM8S⟩,
  ⟨"stm8af62a?", 0x0000, 6 * 1024, 0x4000, 2048, 0x8000, 128 * 1024, 128, 128, .stm8s, regsSTM8S⟩,
  ⟨"stm8al313?", 0x0000, 2 * 1024, 0x1000, 1024, 0x8000, 8 * 1024, 128, 0, .unknown, regsSTM8L⟩,
  ⟨"stm8al314?", 0x0000, 2 * 1024, 0x1000, 1024, 0x8000, 16 * 1024, 128, 0, .unknown, regsSTM8L⟩,
  ⟨"stm8al316?", 0x0000, 2 * 1024, 0x1000, 1024, 0x8000, 32 * 1024, 128, 0, .unknown, regsSTM8L⟩,
  ⟨"stm8al318?", 0x0000, 4 * 1024, 0x1000, 2 * 1024, 0x8000, 64 * 1024, 128, 13, .unknown, regsSTM8L⟩,
  ⟨"stm8al31e8?", 0x0000, 4 * 1024, 0x1000, 2 * 1024, 0x8000, 64 * 1024, 128, 13, .unknown, regsSTM8L⟩,
  ⟨"stm8al3l4?", 0x0000, 2 * 1024, 0x1000, 1024, 0x8000, 16 * 1024, 128, 0, .unknown, regsSTM8L⟩,
  ⟨"stm8al3l6?", 0x0000, 2 * 1024, 0x1000, 1024, 0x8000, 32 * 1024, 128, 0, .unknown, regsSTM8L⟩,
  ⟨"stm8al3l8?", 0x0000, 4 * 1024, 0x1000, 2 * 1024, 0x8000, 64 * 1024, 128, 13, .unknown, regsSTM8L⟩,
  ⟨"stm8al3le8?", 0x0000, 4 * 1024, 0x1000, 2 * 1024, 0x8000, 64 * 1024, 128, 13, .unknown, regsSTM8L⟩,
  ⟨"stm8l001j3", 0x0000, 1536, 0, 0, 0x8000, 8 * 1024, 64, 9, .stm8s, regsSTM8L⟩,
  ⟨"stm8l050j3", 0x0000, 1 * 1024, 0x1000, 256, 0x8000, 8 * 1024, 64, 13, .stm8l, regsSTM8L⟩,
  ⟨"stm8l051f3", 0x0000, 1 * 1024, 0x1000, 256, 0x8000, 8 * 1024, 64, 0, .unknown, regsSTM8L⟩,
  ⟨"stm8l052c6", 0x0000, 2 * 1024, 0x1000, 256, 0x8000, 32 * 1024, 128, 13, .stm8l, regsSTM8L⟩,
  ⟨"stm8l052r8", 0x0000, 4 * 1024, 0x1000, 256, 0x8000, 64 * 1024, 64, 0, .unknown, regsSTM8L⟩,
  ⟨"stm8l101f1", 0x0000, 0x05FF, 0x9FFF, 0, 0x8000, 2 * 1024, 64, 9, .stm8s, regsSTM8L⟩,
  ⟨"stm8l101?2", 0x0000, 0x05FF, 0x9FFF, 0, 0x8000, 4 * 1024, 64, 9, .stm8s, regsSTM8L⟩,
  ⟨"stm8l101?3", 0x0000, 0x05FF, 0x9FFF, 0, 0x8000, 8 * 1024, 64, 9, .stm8s, regsSTM8L⟩,
  ⟨"stm8l151?2", 0x0000, 1 * 1024, 0x1000, 256, 0x8000, 4 * 1024, 64, 0, .unknown, regsSTM8L⟩,
  ⟨"stm8l151?3", 0x0000, 1 * 1024, 0x1000, 256, 0x8000, 8 * 1024, 64, 0, .unknown, regsSTM8L⟩,
  ⟨"stm8l151?4", 0x0000, 2 * 1024, 0x1000, 1024, 0x8000, 16 * 1024, 128, 13, .stm8l, regsSTM8L⟩,
  ⟨"stm8l151?6", 0x0000, 2 * 1024, 0x1000, 1024, 0x8000, 32 * 1024, 128, 13, .stm8l, regsSTM8L⟩,
  ⟨"stm8l151?8", 0x0000, 4 * 1024, 0x1000, 2048, 0x8000, 64 * 1024, 128, 13, .stm8l, regsSTM8L⟩,
  ⟨"stm8l152?4", 0x0000, 2 * 1024, 0x1000, 1024, 0x8000, 16 * 1024, 128, 13, .stm8l, regsSTM8L⟩,
  ⟨"stm8l152?6", 0x0000, 2 * 1024, 0x1000, 1024, 0x8000, 32 * 1024, 128, 13, .stm8l, regsSTM8L⟩,
  ⟨"stm8l152?8", 0x0000, 4 * 1024, 0x1000, 2048, 0x8000, 64 * 1024, 128, 0, .unknown, regsSTM8L⟩,
  ⟨"stm8l162?8", 0x0000, 2 * 1024, 0x1000, 2048, 0x8000, 64 * 1024, 128, 0, .unknown, regsSTM8L⟩,
  ⟨"stm8s001j3", 0x0000, 1 * 1024, 0x4000, 128, 0x8000, 8 * 1024, 64, 11, .stm8s, regsSTM8S⟩,
  ⟨"stm8s003?3", 0x0000, 1 * 1024, 0x4000, 128, 0x8000, 8 * 1024, 64, 11, .stm8s, regsSTM8S⟩,
  ⟨"stm8s005?6", 0x0000, 2 * 1024, 0x4000, 128, 0x8000, 32 * 1024, 128, 15, .stm8s, regsSTM8S⟩,
  ⟨"stm8s007c8", 0x0000, 6 * 1024, 0x4000, 128, 0x8000, 64 * 1024, 128, 0, .unknown, regsSTM8S⟩,
  ⟨"stm8s103f2", 0x0000, 1 * 1024, 0x4000, 640, 0x8000, 4 * 1024, 64, 11, .stm8s, regsSTM8S⟩,
  ⟨"stm8s103?3", 0x0000, 1 * 1024, 0x4000, 640, 0x8000, 8 * 1024, 64, 11, .stm8s, regsSTM8S⟩,
  ⟨"stm8s105?4", 0x0000, 2 * 1024, 0x4000, 1024, 0x8000, 16 * 1024, 128, 15, .stm8s, regsSTM8S⟩,
  ⟨"stm8s105?6", 0x0000, 2 * 1024, 0x4000, 1024, 0x8000, 32 * 1024, 128, 15, .stm8s, regsSTM8S⟩,
  ⟨"stm8s207c8", 0x0000, 6 * 1024, 0x4000, 1536, 0x8000, 64 * 1024, 128, 0, .unknown, regsSTM8S⟩,
  ⟨"stm8s207cb", 0x0000, 6 * 1024, 0x4000, 2048, 0x8000, 128 * 1024, 128, 17, .stm8s, regsSTM8S⟩,
  ⟨"stm8s207k8", 0x0000, 6 * 1024, 0x4000, 1024, 0x8000, 64 * 1024, 128, 17, .stm8s, regsSTM8S⟩,
  ⟨"stm8s207m8", 0x0000, 6 * 1024, 0x4000, 2048, 0x8000, 64 * 1024, 128, 0, .unknown, regsSTM8S⟩,
  ⟨"stm8s207mb", 0x0000, 6 * 1024, 0x4000, 2048, 0x8000, 128 * 1024, 128, 0, .unknown, regsSTM8S⟩,
  ⟨"stm8s207r8", 0x0000, 6 * 1024, 0x4000, 1536, 0x8000, 64 * 1024, 128, 0, .unknown, regsSTM8S⟩,
  ⟨"stm8s207rb", 0x0000, 6 * 1024, 0x4000, 2048, 0x8000, 128 * 1024, 128, 17, .stm8s, regsSTM8S⟩,
  ⟨"stm8s207s8", 0x0000, 6 * 1024, 0x4000, 1536, 0x8000, 64 * 1024, 128, 0, .unknown, regsSTM8S⟩,
  ⟨"stm8s207sb", 0x0000, 6 * 1024, 0x4000, 1536, 0x8000, 128 * 1024, 128, 0, .unknown, regsSTM8S⟩,
  ⟨"stm8s207?6", 0x0000, 6 * 1024, 0x4000, 1024, 0x8000, 32 * 1024, 128, 0, .unknown, regsSTM8S⟩,
  ⟨"stm8s208c6", 0x0000, 6 * 1024, 0x4000, 2048, 0x8000, 32 * 1024, 128, 0, .unknown, regsSTM8S⟩,
  ⟨"stm8s208r6", 0x0000, 6 * 1024, 0x4000, 2048, 0x8000, 32 * 1024, 128, 0, .unknown, regsSTM8S⟩,
  ⟨"stm8s208s6", 0x0000, 6 * 1024, 0x4000, 1536, 0x8000, 32 * 1024, 128, 0, .unknown, regsSTM8S⟩,
  ⟨"stm8s208?8", 0x0000, 6 * 1024, 0x4000, 2048, 0x8000, 64 * 1024, 128, 0, .unknown, regsSTM8S⟩,
  ⟨"stm8s208?b", 0x0000, 6 * 1024, 0x4000, 2048, 0x8000, 128 * 1024, 128, 17, .stm8s, regsSTM8S⟩,
  ⟨"stm8s903?3", 0x0000, 1 * 1024, 0x4000, 640, 0x8000, 8 * 1024, 64, 11, .stm8s, regsSTM8S⟩,
  ⟨"stm8splnb1", 0x0000, 1 * 1024, 0x4000, 640, 0x8000, 8 * 1024, 128, 0, .unknown, regsSTM8S⟩,
  ⟨"stm8tl5??4", 0x0000, 4096, 0x9FFF, 0, 0x8000, 16 * 1024, 64, 0, .unknown, regsSTM8L⟩,
  ⟨"stnrg???a", 0x0000, 6 * 1024, 0x4000, 1024, 0x8000, 32 * 1024, 128, 128, .stm8s, regsSTM8S⟩]

/-! ## What the back ends rely on -/

/-- The registers that the programs of the back ends go through: the addresses in them
that are not data. `FLASH_NCR2 = 0` means that there is none, and `0x7f80` is `SWIM_CSR`. -/
def Stm8Device.IsControl (d : Stm8Device) (a : Nat) : Prop :=
  a = d.regs.clkCkdivr ∨ a = d.regs.flashPukr ∨ a = d.regs.flashDukr ∨ a = d.regs.flashIapsr ∨
  a = d.regs.flashCr2 ∨ (d.regs.flashNcr2 ≠ 0 ∧ a = d.regs.flashNcr2) ∨
  a = d.regs.flashDmCsr2 ∨ a = 0x7f80

instance (d : Stm8Device) (a : Nat) : Decidable (d.IsControl a) :=
  inferInstanceAs (Decidable (_ ∨ _))

/-- The block sizes and register sets that occur. -/
structure Stm8Device.Sound (d : Stm8Device) : Prop where
  block_size : d.flashBlockSize = 64 ∨ d.flashBlockSize = 128
  regs : d.regs = regsSTM8S ∨ d.regs = regsSTM8L

/-- Every device of the table is sound. -/
theorem stm8Devices_sound : ∀ d ∈ stm8Devices, d.Sound := by
  have hall : ∀ d ∈ stm8Devices, (d.flashBlockSize = 64 ∨ d.flashBlockSize = 128) ∧
      (d.regs = regsSTM8S ∨ d.regs = regsSTM8L) := by decide
  intro d hd
  rcases hall d hd with ⟨hblock, hregs⟩
  exact ⟨hblock, hregs⟩

/-- The range lies in the RAM, in the EEPROM or in the flash of the device. -/
def Stm8Device.InArea (d : Stm8Device) (start length : Nat) : Prop :=
  (d.ramStart ≤ start ∧ start + length ≤ d.ramStart + d.ramSize) ∨
  (d.eepromStart ≤ start ∧ start + length ≤ d.eepromStart + d.eepromSize) ∨
  (d.flashStart ≤ start ∧ start + length ≤ d.flashStart + d.flashSize)

instance (d : Stm8Device) (start length : Nat) : Decidable (d.InArea start length) :=
  inferInstanceAs (Decidable (_ ∨ _))

/-- The areas end at 0x28000 at most. -/
theorem Stm8Device.InArea.end_le {d : Stm8Device} (hd : d ∈ stm8Devices) {start length : Nat}
    (h : d.InArea start length) : start + length ≤ 0x28000 := by
  have hall : ∀ d ∈ stm8Devices, d.ramStart + d.ramSize ≤ 0x28000 ∧
      d.eepromStart + d.eepromSize ≤ 0x28000 ∧ d.flashStart + d.flashSize ≤ 0x28000 := by decide
  rcases hall d hd with ⟨hram, heeprom, hflash⟩
  rcases h with ⟨-, h⟩ | ⟨-, h⟩ | ⟨-, h⟩ <;> omega

namespace Stm8Device

variable {d : Stm8Device}

theorem Sound.one_lt (hd : d.Sound) : 1 < d.flashBlockSize := by
  rcases hd.block_size with h | h <;> rw [h] <;> decide

theorem Sound.block_lt (hd : d.Sound) : d.flashBlockSize < 65536 := by
  rcases hd.block_size with h | h <;> rw [h] <;> decide

/-- The registers lie below the flash. -/
theorem Sound.control_lt (hd : d.Sound) {a : Nat} (ha : d.IsControl a) : a < 0x8000 := by
  unfold IsControl at ha
  -- there are two register sets
  rcases hd.regs with h | h <;> rw [h] at ha <;>
    simp only [regsSTM8S, regsSTM8L] at ha <;> omega

/-- They lie above the RAM, the data EEPROM and the option bytes. -/
theorem Sound.le_control (hd : d.Sound) {a : Nat} (ha : d.IsControl a) : 0x5000 ≤ a := by
  unfold IsControl at ha
  rcases hd.regs with h | h <;> rw [h] at ha <;>
    simp only [regsSTM8S, regsSTM8L] at ha <;> omega

/-- A write to another register does not select a programming mode. -/
theorem Sound.ne_cr2 (hd : d.Sound) :
    d.regs.clkCkdivr ≠ d.regs.flashCr2 ∧ d.regs.flashPukr ≠ d.regs.flashCr2 ∧
      d.regs.flashDukr ≠ d.regs.flashCr2 ∧ d.regs.flashIapsr ≠ d.regs.flashCr2 ∧
      d.regs.flashNcr2 ≠ d.regs.flashCr2 ∧ d.regs.flashDmCsr2 ≠ d.regs.flashCr2 := by
  rcases hd.regs with h | h <;> rw [h] <;> decide

theorem Sound.flashDmCsr2 (hd : d.Sound) : d.regs.flashDmCsr2 = 0x7f99 := by
  rcases hd.regs with h | h <;> rw [h] <;> decide

theorem control_clkCkdivr : d.IsControl d.regs.clkCkdivr := Or.inl rfl

theorem control_flashPukr : d.IsControl d.regs.flashPukr := Or.inr (Or.inl rfl)

theorem control_flashDukr : d.IsControl d.regs.flashDukr := Or.inr (Or.inr (Or.inl rfl))

theorem control_flashIapsr : d.IsControl d.regs.flashIapsr :=
  Or.inr (Or.inr (Or.inr (Or.inl rfl)))

theorem control_flashCr2 : d.IsControl d.regs.flashCr2 :=
  Or.inr (Or.inr (Or.inr (Or.inr (Or.inl rfl))))

theorem control_flashNcr2 (h : d.regs.flashNcr2 ≠ 0) : d.IsControl d.regs.flashNcr2 :=
  Or.inr (Or.inr (Or.inr (Or.inr (Or.inr (Or.inl ⟨h, rfl⟩)))))

theorem control_flashDmCsr2 : d.IsControl d.regs.flashDmCsr2 :=
  Or.inr (Or.inr (Or.inr (Or.inr (Or.inr (Or.inr (Or.inl rfl))))))

/-- `SWIM_CSR` -/
theorem control_swimCsr : d.IsControl 0x7f80 :=
  Or.inr (Or.inr (Or.inr (Or.inr (Or.inr (Or.inr (Or.inr rfl))))))

theorem Sound.swimCsr_ne_cr2 (hd : d.Sound) : 0x7f80 ≠ d.regs.flashCr2 := by
  rcases hd.regs with h | h <;> rw [h] <;> decide

end Stm8Device

end Stm8Flash
