import Stm8Flash.Device
import Stm8Flash.Lib.Hex
import Stm8Flash.Lib.Image
import Mathlib.Tactic.SplitIfs

/-! # The target as the programmers see it

The memory behind SWIM and what the flash controller does with the bytes written to it:
a write to `FLASH_CR2` selects a programming mode, a whole block written next is programmed
as a block, and every other write stores its bytes one by one. Standard block programming
replaces the block; fast block programming does not erase, so it stores the old bytes ORed
with the new. `FLASH_IAPSR` shows a status that the hardware decides (`FlashStatus`)
and the two unlock bits. `PUL` and `DUL` are kept, but bytes are stored whether they are set or
not: where the locks decide what a run achieves, `Target.heldBack` takes back what a locked memory
does not take (`espLocking`).

Data are the bytes that are not control registers (`Stm8Device.IsControl`); `Target.Holds`
says which data the target holds.
-/

namespace Stm8Flash

open Hex

/-- What `FLASH_CR2` has selected for the data written next. -/
inductive ProgMode where
  | byte
  | standard
  | fast
  | option
deriving DecidableEq, Repr

/-- The bits of `FLASH_IAPSR` that the programming itself decides. -/
structure FlashStatus where
  wrPgDis : Bool
  eop : Bool
  rest : Fin 16
deriving DecidableEq, Repr

/-- What the flash controller shows: the status at the `j`-th reading of `FLASH_IAPSR` after
the `n`-th programming operation. -/
structure Hardware where
  status : Nat → Nat → FlashStatus

/-- The state of the target. -/
structure Target where
  mem : Nat → Byte
  mode : ProgMode
  pul : Bool
  dul : Bool
  /-- the keys written last to `FLASH_PUKR` and `FLASH_DUKR` -/
  pukr : Byte
  dukr : Byte
  /-- programming operations so far, and readings of `FLASH_IAPSR` since the last one -/
  ops : Nat
  iapsrReads : Nat

/-- The mode that a value in `FLASH_CR2` selects: `PRG`, `FPRG` or `OPT`. -/
def progMode (cr2 : Byte) : ProgMode :=
  if cr2 = 0x01 then .standard
  else if cr2 = 0x10 then .fast
  else if cr2 = 0x80 then .option
  else .byte

namespace Target

/-! ## Reading -/

/-- `FLASH_IAPSR`. -/
def iapsr (t : Target) (s : FlashStatus) : Byte :=
  (if s.wrPgDis then 1 else 0) + (if t.pul then 2 else 0) + (if s.eop then 4 else 0) +
    (if t.dul then 8 else 0) + 16 * UInt8.ofNat s.rest

/-- The byte that a read of the address `a` gives. -/
def peek (t : Target) (d : Stm8Device) (hw : Hardware) (a : Nat) : Byte :=
  if a = d.regs.flashIapsr then t.iapsr (hw.status t.ops t.iapsrReads) else t.mem a

/-- `n` bytes from address `a` on. -/
def read (t : Target) (d : Stm8Device) (hw : Hardware) (a n : Nat) : List Byte :=
  Image.slice (t.peek d hw) a n

/-- A reading that goes over `FLASH_IAPSR` is counted. -/
def afterRead (t : Target) (d : Stm8Device) (a n : Nat) : Target :=
  if a ≤ d.regs.flashIapsr ∧ d.regs.flashIapsr < a + n then
    { t with iapsrReads := t.iapsrReads + 1 }
  else t

/-- A read in two parts: `FLASH_IAPSR` is in one of them at most. -/
theorem afterRead_add (t : Target) (d : Stm8Device) (a n k : Nat) :
    (t.afterRead d a n).afterRead d (a + n) k = t.afterRead d a (n + k) := by
  unfold afterRead
  by_cases hfirst : a ≤ d.regs.flashIapsr ∧ d.regs.flashIapsr < a + n
  · rw [if_pos hfirst, if_neg (by omega), if_pos (by omega)]
  · rw [if_neg hfirst]
    by_cases hsecond : a + n ≤ d.regs.flashIapsr ∧ d.regs.flashIapsr < a + n + k
    · rw [if_pos hsecond, if_pos (by omega)]
    · rw [if_neg hsecond, if_neg (by omega)]

theorem afterRead_zero (t : Target) (d : Stm8Device) (a : Nat) : t.afterRead d a 0 = t := by
  unfold afterRead
  rw [if_neg (by omega)]

/-- A read shows in another one only where both go over `FLASH_IAPSR`. -/
theorem peek_afterRead (t : Target) (d : Stm8Device) (hw : Hardware) {a n b : Nat}
    (h : b < a ∨ a + n ≤ b) : (t.afterRead d a n).peek d hw b = t.peek d hw b := by
  unfold afterRead
  split
  · unfold peek
    rw [if_neg (by omega), if_neg (by omega)]
  · rfl

@[simp] theorem read_length (t : Target) (d : Stm8Device) (hw : Hardware) (a n : Nat) :
    (t.read d hw a n).length = n := Image.slice_length _ _ _

theorem read_add (t : Target) (d : Stm8Device) (hw : Hardware) (a n k : Nat) :
    t.read d hw a (n + k) = t.read d hw a n ++ (t.afterRead d a n).read d hw (a + n) k := by
  unfold read
  rw [Image.slice_append]
  congr 1
  apply (Image.slice_eq_iff _ _ _ _ _).mpr
  intro j _
  rw [peek_afterRead t d hw (Or.inr (by omega))]

/-! ## Writing -/

/-- A programming operation has begun. -/
def startOp (t : Target) : Target := { t with ops := t.ops + 1, iapsrReads := 0 }

/-- One byte written to the address `a`. -/
def poke (t : Target) (d : Stm8Device) (a : Nat) (v : Byte) : Target :=
  let t' := { t with mem := Function.update t.mem a v }
  if a = d.regs.flashCr2 then { t' with mode := progMode v }
  else if a = d.regs.flashPukr then
    { t' with pul := t.pul || (t.pukr = 0x56 && v = 0xae), pukr := v }
  else if a = d.regs.flashDukr then
    { t' with dul := t.dul || (t.dukr = 0xae && v = 0x56), dukr := v }
  else if a = d.regs.flashIapsr then
    { t' with pul := t.pul && v.toNat.testBit 1, dul := t.dul && v.toNat.testBit 3 }
  else if t.mode = .option ∧ ¬d.IsControl a then t'.startOp
  else t'

/-- Bytes written one by one from the address `a` on. -/
def pokes (t : Target) (d : Stm8Device) : Nat → List Byte → Target
  | _, [] => t
  | a, v :: vs => (t.poke d a v).pokes d (a + 1) vs

/-- A block is programmed at `a`. -/
def program (t : Target) (a : Nat) (data : List Byte) : Target :=
  { t.startOp with
    mem := Image.storeAll t.mem (Image.block a data)
    mode := .byte }

/-- The old bytes at `a` ORed with `data`. -/
def ored (t : Target) (a : Nat) (data : List Byte) : List Byte :=
  List.zipWith (· ||| ·) (Image.slice t.mem a data.length) data

/-- Bytes written in one command. -/
def write (t : Target) (d : Stm8Device) (a : Nat) (data : List Byte) : Target :=
  if data.length = d.flashBlockSize ∧ a % d.flashBlockSize = 0 ∧ t.mode = .standard then
    t.program a data
  else if data.length = d.flashBlockSize ∧ a % d.flashBlockSize = 0 ∧ t.mode = .fast then
    t.program a (t.ored a data)
  else t.pokes d a data

/-! ## Lemmas for single bytes -/

section Poke

variable {t : Target} {d : Stm8Device} {a : Nat} {v : Byte}

@[simp] theorem poke_mem : (t.poke d a v).mem = Function.update t.mem a v := by
  unfold poke
  split_ifs <;> rfl

theorem poke_mode (h : a ≠ d.regs.flashCr2) : (t.poke d a v).mode = t.mode := by
  unfold poke
  rw [if_neg h]
  split_ifs <;> rfl

theorem poke_cr2_mode : (t.poke d d.regs.flashCr2 v).mode = progMode v := by
  unfold poke
  rw [if_pos rfl]

/-- In option mode a data byte is programmed. -/
theorem poke_option (hm : t.mode = .option) (ha : ¬d.IsControl a) :
    (t.poke d a v).ops = t.ops + 1 ∧ (t.poke d a v).iapsrReads = 0 := by
  -- a data byte is none of the registers
  obtain ⟨-, hpukr, hdukr, hiapsr, hcr2, -⟩ :
      a ≠ d.regs.clkCkdivr ∧ a ≠ d.regs.flashPukr ∧ a ≠ d.regs.flashDukr ∧
        a ≠ d.regs.flashIapsr ∧ a ≠ d.regs.flashCr2 ∧ True := by
    unfold Stm8Device.IsControl at ha
    simp only [not_or] at ha
    exact ⟨ha.1, ha.2.1, ha.2.2.1, ha.2.2.2.1, ha.2.2.2.2.1, trivial⟩
  unfold poke
  rw [if_neg hcr2, if_neg hpukr, if_neg hdukr, if_neg hiapsr, if_pos ⟨hm, ha⟩]
  exact ⟨rfl, rfl⟩

theorem pokes_mem (data : List Byte) :
    (t.pokes d a data).mem = Image.storeAll t.mem (Image.block a data) := by
  induction data generalizing t a with
  | nil => rfl
  | cons v vs ih =>
    unfold pokes
    rw [ih, poke_mem]
    rfl

/-- A block changes nothing outside its addresses. -/
theorem write_off {data : List Byte} {x : Nat} (hx : x < a ∨ a + data.length ≤ x) :
    (t.write d a data).mem x = t.mem x := by
  unfold write
  split
  · exact Image.storeAll_block_off _ _ _ _ hx
  · split
    · refine Image.storeAll_block_off _ _ _ _ ?_
      unfold ored
      rw [List.length_zipWith, Image.slice_length, Nat.min_self]
      exact hx
    · rw [pokes_mem]
      exact Image.storeAll_block_off _ _ _ _ hx

theorem write_one (hb : 1 < d.flashBlockSize) : t.write d a [v] = t.poke d a v := by
  unfold write
  rw [if_neg (fun h => by simp at h; omega), if_neg (fun h => by simp at h; omega)]
  rfl

end Poke

/-! ## The data of the target -/

/-- The target holds the data `m`. -/
def Holds (t : Target) (d : Stm8Device) (m : Nat → Byte) : Prop :=
  ∀ a, ¬d.IsControl a → t.mem a = m a

/-- No block programming mode waits for its block. -/
def Clear (t : Target) : Prop := t.mode = .byte ∨ t.mode = .option

/-- The target holds the data `m`, in the mode `mode`. -/
def InMode (d : Stm8Device) (m : Nat → Byte) (mode : ProgMode) (t : Target) : Prop :=
  t.Holds d m ∧ t.mode = mode

/-- The target holds the data `m` and waits for no block. -/
def Ready (d : Stm8Device) (m : Nat → Byte) (t : Target) : Prop := t.Holds d m ∧ t.Clear

section Holds

variable {t : Target} {d : Stm8Device} {m : Nat → Byte} {a : Nat} {v : Byte}

/-- A write to a control register changes no data. -/
theorem Holds.poke_control (h : t.Holds d m) (ha : d.IsControl a) : (t.poke d a v).Holds d m := by
  intro x hx
  have hne : x ≠ a := fun e => hx (e ▸ ha)
  rw [poke_mem, Function.update_of_ne hne]
  exact h x hx

theorem Holds.poke (h : t.Holds d m) : (t.poke d a v).Holds d (Function.update m a v) := by
  intro x hx
  rw [poke_mem]
  by_cases hxa : x = a
  · rw [hxa, Function.update_self, Function.update_self]
  · rw [Function.update_of_ne hxa, Function.update_of_ne hxa]
    exact h x hx

theorem Holds.afterRead (h : t.Holds d m) (n : Nat) : (t.afterRead d a n).Holds d m := by
  unfold Target.afterRead
  split
  · exact h
  · exact h

/-- Data are read as they are. -/
theorem Holds.peek (h : t.Holds d m) (hw : Hardware) (ha : ¬d.IsControl a) :
    t.peek d hw a = m a := by
  have hne : a ≠ d.regs.flashIapsr := by
    intro e
    rw [e] at ha
    exact ha d.control_flashIapsr
  unfold Target.peek
  rw [if_neg hne]
  exact h a ha

@[simp] theorem afterRead_mode (n : Nat) : (t.afterRead d a n).mode = t.mode := by
  unfold Target.afterRead
  split <;> rfl

theorem pokes_holds (data : List Byte) (h : t.Holds d m) :
    (t.pokes d a data).Holds d (Image.storeAll m (Image.block a data)) := by
  intro x hx
  rw [pokes_mem]
  exact Image.storeAll_congr _ _ _ _ (h x hx)

theorem pokes_mode (data : List Byte) (ha : ∀ k < data.length, ¬d.IsControl (a + k)) :
    (t.pokes d a data).mode = t.mode := by
  induction data generalizing t a with
  | nil => rfl
  | cons v vs ih =>
    -- only `FLASH_CR2` changes the mode, and it is no data
    have hcr2 : a ≠ d.regs.flashCr2 := by
      intro e
      apply ha 0 (by simp)
      rw [Nat.add_zero, e]
      exact d.control_flashCr2
    unfold pokes
    rw [ih, poke_mode hcr2]
    intro k hk
    have hnext := ha (k + 1) (by simpa using hk)
    rwa [Nat.add_comm k 1, ← Nat.add_assoc] at hnext

/-- Where no mode waits, a block is stored byte by byte. -/
theorem write_clear (hc : t.Clear) (data : List Byte) : t.write d a data = t.pokes d a data := by
  unfold write
  -- a block is programmed only in the two block modes
  rw [if_neg, if_neg]
  · intro h
    rcases hc with hm | hm <;> rw [hm] at h <;> exact absurd h.2.2 (by decide)
  · intro h
    rcases hc with hm | hm <;> rw [hm] at h <;> exact absurd h.2.2 (by decide)

/-- Standard block programming stores the block. -/
theorem write_standard (h : t.Holds d m) (hm : t.mode = .standard) {data : List Byte}
    (hlen : data.length = d.flashBlockSize) (ha : a % d.flashBlockSize = 0) :
    (t.write d a data).Holds d (Image.storeAll m (Image.block a data)) ∧
      (t.write d a data).mode = .byte ∧ (t.write d a data).ops = t.ops + 1 ∧
      (t.write d a data).iapsrReads = 0 := by
  unfold write
  rw [if_pos ⟨hlen, ha, hm⟩]
  refine ⟨?_, rfl, rfl, rfl⟩
  intro x hx
  exact Image.storeAll_congr _ _ _ _ (h x hx)

/-- Fast block programming stores the block where the old bytes are zero. -/
theorem write_fast (h : t.Holds d m) (hm : t.mode = .fast) {data : List Byte}
    (hlen : data.length = d.flashBlockSize) (ha : a % d.flashBlockSize = 0)
    (hdata : ∀ k < data.length, ¬d.IsControl (a + k)) (hzero : ∀ k < data.length, m (a + k) = 0) :
    (t.write d a data).Holds d (Image.storeAll m (Image.block a data)) ∧
      (t.write d a data).mode = .byte ∧ (t.write d a data).ops = t.ops + 1 ∧
      (t.write d a data).iapsrReads = 0 := by
  -- zero ORed with the new byte is the new byte
  have hored : t.ored a data = data := by
    unfold ored
    apply List.ext_getElem (by simp)
    intro k hk hk'
    have hold : t.mem (a + k) = 0 := by rw [h _ (hdata k hk'), hzero k hk']
    simp [hold]
  unfold write
  rw [if_neg (fun hs => by rw [hm] at hs; exact absurd hs.2.2 (by decide)),
    if_pos ⟨hlen, ha, hm⟩, hored]
  refine ⟨?_, rfl, rfl, rfl⟩
  intro x hx
  exact Image.storeAll_congr _ _ _ _ (h x hx)

end Holds

/-! ## The bits of `FLASH_IAPSR` -/

theorem iapsr_eop (t : Target) (s : FlashStatus) :
    (t.iapsr s).toNat &&& 0x04 ≠ 0 ↔ s.eop = true := by
  rcases s with ⟨w, e, r⟩
  -- all values of the other bits
  have hall : ∀ (w p e d : Bool) (r : Fin 16),
      (((if w then 1 else 0) + (if p then 2 else 0) + (if e then 4 else 0) +
        (if d then 8 else 0) + 16 * UInt8.ofNat r : Byte).toNat &&& 0x04 ≠ 0) ↔ e = true := by
    decide +kernel
  exact hall w t.pul e t.dul r

theorem iapsr_wrPgDis (t : Target) (s : FlashStatus) :
    (t.iapsr s).toNat &&& 0x01 ≠ 0 ↔ s.wrPgDis = true := by
  rcases s with ⟨w, e, r⟩
  have hall : ∀ (w p e d : Bool) (r : Fin 16),
      (((if w then 1 else 0) + (if p then 2 else 0) + (if e then 4 else 0) +
        (if d then 8 else 0) + 16 * UInt8.ofNat r : Byte).toNat &&& 0x01 ≠ 0) ↔ w = true := by
    decide +kernel
  exact hall w t.pul e t.dul r

end Target

end Stm8Flash
