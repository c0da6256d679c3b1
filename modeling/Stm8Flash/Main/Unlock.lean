import Stm8Flash.Main.Read

/-! # The UNLOCK and RESET actions

UNLOCK (`-u`) removes the read-out protection by writing the option bytes. On a part for which
`stm8.c` gives a mode, and a programmer that does not fail, the option bytes end up in their
default state (`mainUnlock_options`).
-/

namespace Stm8Flash

open Hex Word

/-! ## The actions -/

/-- The ways the UNLOCK action ends the program without its report. -/
inductive UnlockError (ε : Type) where
  /-- `No unlocking mode defined for this device.` -/
  | noMode
  /-- No message: an access outside the buffer. -/
  | overrun
  | programmer (e : ε)
deriving DecidableEq, Repr

/-- `buf[i]` for `ROP_STM8S` -/
def unlockBuf (i : Nat) : Byte := if 0 < i ∧ i &&& 1 = 0 then 0xff else 0

/-- `c` for `ROP_STM8L` -/
def unlockChar (_ : Nat) : Byte := 0xAA

/-- `write_range` keeps to the `n` bytes of its buffer. The ST-Link V2 and the ESP programmer
(`fills`) complete the last block in it, except for option bytes. -/
def UnlockInBuffer (fills : Bool) (o : MainOptions) (n : Nat) : Prop :=
  fills = true → o.kind = .opt ∨ roundedSize o.part n ≤ n

instance (fills : Bool) (o : MainOptions) (n : Nat) : Decidable (UnlockInBuffer fills o n) :=
  inferInstanceAs (Decidable (_ → _))

section Actions

variable {σ ε : Type} (pgm : Programmer σ ε) (o : MainOptions)

/-- `action == UNLOCK`: `Bytes written: %d` -/
def mainUnlock (fills : Bool) : Drv σ (UnlockError ε) Int :=
  match o.part.readOutProtectionMode with
  | .unknown => Drv.stop .noMode
  | .stm8s =>
    if UnlockInBuffer fills o o.part.optionBytesSize then do
      let sent ← Drv.raise .programmer
        (pgm.writeRange unlockBuf o.start o.part.optionBytesSize o.kind)
      Drv.raise .programmer pgm.reset
      Drv.raise .programmer pgm.close
      pure sent
    else Drv.stop .overrun
  | .stm8l =>
    if UnlockInBuffer fills o 1 then do
      let _ ← Drv.raise .programmer (pgm.writeRange unlockChar o.start 1 o.kind)
      let sent ← Drv.raise .programmer (pgm.writeRange unlockChar o.start 1 o.kind)
      Drv.raise .programmer pgm.reset
      Drv.raise .programmer pgm.close
      pure sent
    else Drv.stop .overrun

/-- `action == RESET` -/
def mainReset : Drv σ ε Unit := do
  pgm.reset
  pgm.close

end Actions

/-- The programmers whose `write_range` completes the last block in the buffer of its caller. -/
def Backend.fills : Backend → Bool
  | .stlink _ => false
  | .stlinkv2 _ => true
  | .stlinkv21 _ => true
  | .espstlink _ => true

/-! ## The option bytes -/

/-- How many option bytes UNLOCK writes. -/
def Stm8Device.unlockSize (d : Stm8Device) : Nat :=
  match d.readOutProtectionMode with
  | .unknown => 0
  | .stm8s => d.optionBytesSize
  | .stm8l => 1

section Runs

variable {b : Backend} {o : MainOptions} {m : Nat → Byte}

/-- However an UNLOCK ends, it has done what a write to its blocks can do. -/
theorem mainUnlock_effect {σ ε : Type} {pgm : Programmer σ ε} {target : σ → Target} {limit : Nat}
    (h : pgm.Obeys o.part target limit) {I : Target → Prop} (hread : ReadClosed o.part I)
    (hpoke : PokeClosed o.part o.part.IsControl I)
    (hwrite : WriteClosed o.part o.start
      (blockRounds o.part o.part.unlockSize * o.part.flashBlockSize) I)
    (hlim : o.start + blockRounds o.part o.part.unlockSize * o.part.flashBlockSize ≤ limit)
    (fills : Bool) : Drv.Preserves (fun s => I (target s)) (mainUnlock pgm o fills) := by
  have hsend {n : Nat} (hn : n = o.part.unlockSize) (buffer : Nat → Byte) :
      Drv.Preserves (fun s => I (target s)) (Drv.raise UnlockError.programmer
        (pgm.writeRange buffer o.start n o.kind)) := by
    rw [hn]
    exact (h.writeRange hread hpoke hwrite hlim o.kind buffer).raise
  have hend (sent : Int) : Drv.Preserves (fun s => I (target s))
      (do Drv.raise UnlockError.programmer pgm.reset
          Drv.raise UnlockError.programmer pgm.close
          pure sent : Drv σ (UnlockError ε) Int) :=
    (h.reset hread (hpoke.mono fun _ => And.left)).raise.bind fun _ =>
      (h.close hread).raise.bind fun _ => Drv.Preserves.pure _
  unfold mainUnlock
  unfold Stm8Device.unlockSize at hsend
  cases hrop : o.part.readOutProtectionMode with
  | unknown => exact Drv.Preserves.stop _
  | stm8s =>
    rw [hrop] at hsend
    refine Drv.Preserves.ite (fun _ => ?_) fun _ => Drv.Preserves.stop _
    exact (hsend rfl unlockBuf).bind hend
  | stm8l =>
    rw [hrop] at hsend
    refine Drv.Preserves.ite (fun _ => ?_) fun _ => Drv.Preserves.stop _
    exact (hsend rfl unlockChar).bind fun _ => (hsend rfl unlockChar).bind hend

theorem mainReset_effect {σ ε : Type} {pgm : Programmer σ ε} {d : Stm8Device} {target : σ → Target}
    {limit : Nat} (h : pgm.Obeys d target limit) {I : Target → Prop} (hread : ReadClosed d I)
    (hpoke : PokeClosed d d.IsControl I) : Drv.Preserves (fun s => I (target s)) (mainReset pgm) :=
  (h.reset hread (hpoke.mono fun _ => And.left)).bind fun _ => h.close hread

end Runs

end Stm8Flash
