import Stm8Flash.Effects

/-! # A write that is broken off

A program that stops in the middle of `write_range` leaves the first bytes of the buffer on the
target and nothing else (`Target.Reached`).
-/

namespace Stm8Flash

open Hex Word

section Written

variable {m buffer : Nat → Byte} {start : Nat}

end Written

/-- The first bytes of the buffer are on the target, and every other data byte is that of `m`. -/
def Target.Reached (d : Stm8Device) (m buffer : Nat → Byte) (start length : Nat) (t : Target) :
    Prop :=
  ∃ n ≤ length, t.Holds d (written m buffer start n)

namespace Target.Reached

variable {d : Stm8Device} {m buffer : Nat → Byte} {start length : Nat} {t : Target}

theorem none (h : t.Holds d m) : t.Reached d m buffer start length := ⟨0, Nat.zero_le _, h⟩

theorem all (h : t.Holds d (written m buffer start length)) : t.Reached d m buffer start length :=
  ⟨length, Nat.le_refl _, h⟩

end Target.Reached

end Stm8Flash
