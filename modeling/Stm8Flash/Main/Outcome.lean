import Stm8Flash.Main.Program

/-! # What comes of a run in which nothing fails

With a programmer that can be opened and does not fail, a run of the program ends like its action on
the model of the programmer, from the same data on (`program_answered`). So what a command line
writes is there for another one to verify, whatever runs come between (`programs_write_verify`), and
what one reads another one writes to another target (`programs_copy`).
-/

namespace Stm8Flash

open Getopt Hex Word

section Rows

variable {o : MainOptions}

end Rows

/-! ## One run -/

section One

variable {usb : Libusb} {r : Invocation} {q : Request} {p : Place}

variable {w : World} {content : List Byte} {n : Int} {stores : List (Nat × Byte)}

end One

/-! ## Runs one after the other -/

section Many

variable {usb : Libusb} {r r' : Invocation} {q q' : Request}
  {rs : List Invocation} {w : World}

theorem sampleRun_place (args : List (List Byte)) (action : ActionName) (filename : List Byte) :
    (sampleRun args).place (.showing sampleDevices) (sampleSetup action filename) =
      .ok (.usb 0) := by
  have hfound : usbInit PgmName.stlinkv2.ids (some (cstring (text "12"))) (.showing sampleDevices) =
      .opened 0 := by
    decide +kernel
  unfold Invocation.place
  rw [show usbInit (sampleSetup action filename).pgm.ids
    ((sampleSetup action filename).serialno.map cstring) (.showing sampleDevices) = .opened 0 from
      hfound]
  rfl

end Many

end Stm8Flash
