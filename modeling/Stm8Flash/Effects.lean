import Stm8Flash.Locks
import Stm8Flash.Stlink.Read

/-! # What a run can do to the target, however it ends

An invariant of the target that the reads of a run keep, and its writes, is kept by the whole run
in any environment. `Target.Untouched` is the one for the runs that only read: nothing that is
programmed has changed, and neither have the locks.
-/

namespace Stm8Flash

open Hex Word

/-- What holds of the target still holds when something has been read. -/
def ReadClosed (d : Stm8Device) (I : Target → Prop) : Prop :=
  ∀ t a n, I t → I (t.afterRead d a n)

/-- What holds of the target still holds when one of the registers `R` has been written to. -/
def PokeClosed (d : Stm8Device) (R : Nat → Prop) (I : Target → Prop) : Prop :=
  ∀ t a v, R a → I t → I (t.poke d a v)

/-- What holds of the target still holds when something has been written between `start` and
`start + n`. -/
def WriteClosed (d : Stm8Device) (start n : Nat) (I : Target → Prop) : Prop :=
  ∀ t a data, start ≤ a → a + data.length ≤ start + n → I t → I (t.write d a data)

theorem PokeClosed.mono {d : Stm8Device} {R R' : Nat → Prop} {I : Target → Prop}
    (h : PokeClosed d R I) (hR : ∀ a, R' a → R a) : PokeClosed d R' I :=
  fun t a v ha ht => h t a v (hR a ha) ht

theorem WriteClosed.mono {d : Stm8Device} {start n k : Nat} {I : Target → Prop}
    (h : WriteClosed d start n I) (hle : k ≤ n) : WriteClosed d start k I :=
  fun t a data hstart hend ht => h t a data hstart (by omega) ht

theorem Stm8Device.SessionReg.control {d : Stm8Device} {a : Nat} (h : d.SessionReg a) :
    d.IsControl a := by
  rcases h with rfl | rfl
  · exact d.control_clkCkdivr
  · exact d.control_swimCsr

/-- Nothing has been programmed: the data, the selected mode, the locks and the number of
programming operations are the same. -/
structure Target.Untouched (d : Stm8Device) (t u : Target) : Prop where
  data : u.Holds d t.mem
  mode : u.mode = t.mode
  locks : u.locks = t.locks
  ops : u.ops = t.ops

namespace Target.Untouched

variable {d : Stm8Device} {t u : Target}

theorem refl (d : Stm8Device) (t : Target) : t.Untouched d t :=
  ⟨fun _ _ => rfl, rfl, rfl, rfl⟩

theorem readClosed : ReadClosed d (t.Untouched d) := by
  intro u a n h
  refine ⟨h.data.afterRead n, ?_, ?_, ?_⟩
  · rw [Target.afterRead_mode, h.mode]
  · rw [Target.afterRead_locks, h.locks]
  · unfold Target.afterRead
    split
    · exact h.ops
    · exact h.ops

theorem pokeClosed (hd : d.Sound) : PokeClosed d d.SessionReg (t.Untouched d) := by
  intro u a v ha h
  have hdata := @Target.Holds.poke_control _ _ _ _ v h.data ha.control
  rw [ha.poke hd u v] at hdata ⊢
  exact ⟨hdata, h.mode, h.locks, h.ops⟩

/-- The target still holds its data and waits for no block. -/
theorem ready {m : Nat → Byte} (h : t.Untouched d u) (ht : t.Ready d m) : u.Ready d m := by
  refine ⟨fun a ha => (h.data a ha).trans (ht.1 a ha), ?_⟩
  unfold Target.Clear
  rw [h.mode]
  exact ht.2

end Target.Untouched

/-- Outside the `n` addresses from `start` on the target holds the data `m`. -/
def Target.HoldsOutside (t : Target) (d : Stm8Device) (m : Nat → Byte) (start n : Nat) : Prop :=
  ∀ a, ¬d.IsControl a → a < start ∨ start + n ≤ a → t.mem a = m a

namespace Target.HoldsOutside

variable (d : Stm8Device) (m : Nat → Byte) (start n : Nat)

theorem readClosed : ReadClosed d fun t => t.HoldsOutside d m start n := by
  intro t a k h
  unfold Target.afterRead
  split
  · exact h
  · exact h

theorem pokeClosed : PokeClosed d d.IsControl fun t => t.HoldsOutside d m start n := by
  intro t a v ha h x hx hout
  have hne : x ≠ a := fun e => hx (e ▸ ha)
  rw [Target.poke_mem, Function.update_of_ne hne]
  exact h x hx hout

theorem writeClosed : WriteClosed d start n fun t => t.HoldsOutside d m start n := by
  intro t a data hle hlen h x hx hout
  rw [Target.write_off (by omega)]
  exact h x hx hout

end Target.HoldsOutside

/-- The data do not change when control registers are written to. -/
theorem Target.Holds.pokeClosed (d : Stm8Device) (m : Nat → Byte) :
    PokeClosed d d.IsControl fun t => t.Holds d m := fun _ _ _ ha h => h.poke_control ha

/-- A control register that does not select the mode. -/
def Stm8Device.ModeFree (d : Stm8Device) (a : Nat) : Prop := d.IsControl a ∧ a ≠ d.regs.flashCr2

theorem Target.InMode.pokeClosed (d : Stm8Device) (m : Nat → Byte) (mode : ProgMode) :
    PokeClosed d d.ModeFree (Target.InMode d m mode) := by
  rintro t a v ⟨hctl, hcr2⟩ ⟨hdata, hmode⟩
  exact ⟨hdata.poke_control hctl, (Target.poke_mode hcr2).trans hmode⟩

theorem Target.InMode.readClosed (d : Stm8Device) (m : Nat → Byte) (mode : ProgMode) :
    ReadClosed d (Target.InMode d m mode) := by
  rintro t a n ⟨hdata, hmode⟩
  exact ⟨hdata.afterRead n, (Target.afterRead_mode n).trans hmode⟩

/-- The modes in which no block is waited for are kept with all others. -/
theorem Target.Ready.pokeClosed (d : Stm8Device) (m : Nat → Byte) :
    PokeClosed d d.ModeFree (Target.Ready d m) := by
  rintro t a v ha ⟨hdata, hclear⟩
  have h := Target.InMode.pokeClosed d m t.mode t a v ha ⟨hdata, rfl⟩
  refine ⟨h.1, ?_⟩
  unfold Target.Clear
  rw [h.2]
  exact hclear

theorem Target.Ready.readClosed (d : Stm8Device) (m : Nat → Byte) :
    ReadClosed d (Target.Ready d m) := by
  rintro t a n ⟨hdata, hclear⟩
  have h := Target.InMode.readClosed d m t.mode t a n ⟨hdata, rfl⟩
  refine ⟨h.1, ?_⟩
  unfold Target.Clear
  rw [h.2]
  exact hclear

end Stm8Flash
