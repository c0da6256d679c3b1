import Stm8Flash.DiffWrite
import Stm8Flash.Espstlink.Failures
import Stm8Flash.Main.Model
import Stm8Flash.Stlink.Addresses

/-! # What a WRITE reports

The WRITE action prints `OK` whatever `write_range` returned. `mainWrite_complete_iff` says
what the report is worth for each back end: ST-Link V1 and V2 return the whole length or not at
all, and the ESP back end returns less exactly when a block write has failed.
-/

namespace Stm8Flash

open Hex Word

/-- What is written lies in the buffer, and so does the last block. -/
theorem rounds_lt_of_writeAlign {o : MainOptions} {n : Int} (h0 : 0 ≤ n) (hle : n ≤ writeAlign o) :
    blockRounds o.part n.toNat * o.part.flashBlockSize < 2147483648 := by
  have hd := stm8Devices_sound o.part o.part_mem
  unfold writeAlign toInt32 roundedSize u32 at hle
  unfold blockRounds
  rcases hd.block_size with hb | hb <;> rw [hb] at hle ⊢ <;> split at hle <;> omega

/-! ## The back ends that return the length -/

theorem stlinkSwimWriteRange_value (d : Stm8Device) (env : StlinkEnv) (buffer : Nat → Byte)
    (start length : Nat) (memtype : Memtype) :
    Drv.Triple (fun _ => True) (stlinkSwimWriteRange d env buffer start length memtype)
      (fun v _ => v = toInt32 length) (fun _ _ => True) := by
  apply (Drv.Triple.trivial _).bind
  intro _
  apply (Drv.Triple.trivial _).bind
  intro _
  apply (Drv.Triple.trivial _).bind
  intro _
  apply (Drv.Triple.trivial _).bind
  intro _
  apply (Drv.Triple.trivial _).bind
  intro _
  apply (Drv.Triple.trivial _).bind
  intro _
  exact Drv.Triple.pure fun _ _ => rfl

theorem stlink2SwimWriteRange_value (d : Stm8Device) (env : Stlinkv2Env) (buffer : Nat → Byte)
    (start length : Nat) (memtype : Memtype) :
    Drv.Triple (fun _ => True) (stlink2SwimWriteRange d env buffer start length memtype)
      (fun v _ => v = toInt32 length) (fun _ _ => True) := by
  apply (Drv.Triple.trivial _).bind
  intro _
  apply (Drv.Triple.trivial _).bind
  intro _
  apply (Drv.Triple.trivial _).bind
  intro _
  apply (Drv.Triple.trivial _).bind
  intro _
  exact Drv.Triple.pure fun _ _ => rfl

theorem stlinkSwimSrst_seen (d : Stm8Device) (env : StlinkEnv) :
    Drv.Keeps StlinkState.seen (stlinkSwimSrst d env) := by
  apply (stlinkCmd_seen ⟨by decide, by decide⟩ _ _ _).bind
  intro _
  exact (Drv.Keeps.state.bind fun _ => stlinkStatusReply_seen _).bind fun _ => Drv.Keeps.pure _

section Complete

variable {o : MainOptions} {file : Option (List Byte)} {r : WriteReport}

/-- ST-Link V2, however it is closed. -/
theorem mainWrite_complete_stlinkv2 {pgm : Programmer Stlinkv2State Stlinkv2Error}
    {env : Stlinkv2Env} (hpgm : pgm.writeRange = stlink2SwimWriteRange o.part env)
    {s t : Stlinkv2State} (h : mainWrite pgm o file s = (.ok r, t)) :
    r.bytesToWrite ≤ r.sent := by
  rcases mainWrite_ok h with ⟨content, stores, u, w, -, -, ⟨h0, hle, -⟩, hwrite, -, -⟩
  rw [hpgm] at hwrite
  have hlt := rounds_lt_of_writeAlign h0 hle
  have hrounds := length_le_rounds (stm8Devices_sound _ o.part_mem) r.bytesToWrite.toNat
  have hvalue := (stlink2SwimWriteRange_value o.part env _ _ _ _).of_ok trivial hwrite
  rw [hvalue, toInt32_of_lt (by omega)]
  omega

theorem mainWrite_complete_stlink {env : StlinkEnv} {s t : StlinkState}
    (h : mainWrite (pgmStlink o.part env) o file s = (.ok r, t)) :
    r.bytesToWrite ≤ r.sent ∧ t.writeErrors = s.writeErrors := by
  have hd := stm8Devices_sound _ o.part_mem
  rcases mainWrite_ok h with ⟨content, stores, u, w, -, -, ⟨h0, hle, -⟩, hwrite, hreset, hclose⟩
  constructor
  · have hlt := rounds_lt_of_writeAlign h0 hle
    have hrounds := length_le_rounds hd r.bytesToWrite.toNat
    have hvalue := (stlinkSwimWriteRange_value o.part env _ _ _ _).of_ok trivial hwrite
    rw [hvalue, toInt32_of_lt (by omega)]
    omega
  · -- neither the write nor the reset prints an error
    have hrecord := (stlinkSwimWriteRange_rangeCmds hd env s.rangeCmds s.writeErrors _ _ _ _).of_ok
      rfl hwrite
    have hseen := stlinkSwimSrst_seen o.part env u
    rw [show stlinkSwimSrst o.part env u = (.ok (), w) from hreset] at hseen
    cases hclose
    have herrors : t.writeErrors = u.writeErrors := congrArg (fun p => p.2.2) hseen
    exact herrors.trans (congrArg Prod.snd hrecord)

theorem mainWrite_complete_espstlink {env : EspstlinkEnv} {s t : EspstlinkState}
    (h : mainWrite (pgmEspstlink o.part env) o file s = (.ok r, t)) :
    r.bytesToWrite ≤ r.sent ↔ t.failedBlocks = s.failedBlocks := by
  have hd := stm8Devices_sound _ o.part_mem
  rcases mainWrite_ok h with ⟨content, stores, u, w, -, -, ⟨h0, hle, -⟩, hwrite, hreset, hclose⟩
  have hvalue := (@espstlinkSwimWriteRange_failures _ _ s.failedBlocks hd _ _ _ _
    (rounds_lt_of_writeAlign h0 hle)).of_ok rfl hwrite
  -- the reset sends no block
  have hkept := @espstlinkSrst_keeps o.part env hd u
  rw [show espstlinkSrst o.part env u = (.ok (), w) from hreset] at hkept
  cases hclose
  have hlen : (r.bytesToWrite.toNat : Int) = r.bytesToWrite := by omega
  rw [hlen] at hvalue
  rw [hkept]
  exact hvalue

end Complete

/-- When the WRITE action prints `OK` and exits with status 0, all bytes have been written and no
`Write error` has been printed, except with the ESP back end: there the count is complete if and
only if no block write of the run has failed. -/
theorem mainWrite_complete_iff (o : MainOptions) (file : Option (List Byte)) (r : WriteReport) :
    (∀ env s t, mainWrite (pgmStlink o.part env) o file s = (.ok r, t) →
      r.bytesToWrite ≤ r.sent ∧ t.writeErrors = s.writeErrors) ∧
    (∀ env s t, mainWrite (pgmStlinkv2 o.part env) o file s = (.ok r, t) →
      r.bytesToWrite ≤ r.sent) ∧
    (∀ env s t, mainWrite (pgmStlinkv21 o.part env) o file s = (.ok r, t) →
      r.bytesToWrite ≤ r.sent) ∧
    ∀ env s t, mainWrite (pgmEspstlink o.part env) o file s = (.ok r, t) →
      (r.bytesToWrite ≤ r.sent ↔ t.failedBlocks = s.failedBlocks) :=
  ⟨fun _ _ _ h => mainWrite_complete_stlink h,
    fun _ _ _ h => mainWrite_complete_stlinkv2 rfl h,
    fun _ _ _ h => mainWrite_complete_stlinkv2 rfl h,
    fun _ _ _ h => mainWrite_complete_espstlink h⟩

/-- Two bytes of flash, with programmers that answer everything. -/
theorem mainWrite_complete_two :
    (∃ t, mainWrite (pgmStlink stm8Devices[0] .answering) sampleOptions (some [0x55, 0xAA])
        (.fresh fun _ => 0xff) = (.ok ⟨2, 2⟩, t) ∧ (2 : Int) ≤ 2 ∧ t.writeErrors = 0) ∧
    (∃ t, mainWrite (pgmStlinkv2 stm8Devices[0] .answering) sampleOptions (some [0x55, 0xAA])
        ⟨.idle fun _ => 0xff, [], 0, 0, []⟩ = (.ok ⟨2, 2⟩, t) ∧ (2 : Int) ≤ 2) ∧
    (∃ t, mainWrite (pgmStlinkv21 stm8Devices[0] .answering) sampleOptions (some [0x55, 0xAA])
        ⟨.idle fun _ => 0xff, [], 0, 0, []⟩ = (.ok ⟨2, 2⟩, t) ∧ (2 : Int) ≤ 2) ∧
    ∃ t, mainWrite (pgmEspstlink stm8Devices[0] .answering) sampleOptions (some [0x55, 0xAA])
        ⟨.idle fun _ => 0xff, 0, []⟩ = (.ok ⟨2, 128⟩, t) ∧
      ((2 : Int) ≤ 128 ↔ t.failedBlocks = []) := by
  have hlength := mainWrite_complete_iff sampleOptions (some [0x55, 0xAA]) ⟨2, 2⟩
  have hrounded := mainWrite_complete_iff sampleOptions (some [0x55, 0xAA]) ⟨2, 128⟩
  refine ⟨?_, ?_, ?_, ?_⟩
  · obtain ⟨t, hrun⟩ := Drv.run_of_toOption (m := mainWrite (pgmStlink stm8Devices[0] .answering)
      sampleOptions (some [0x55, 0xAA])) (s := .fresh fun _ => 0xff) (a := ⟨2, 2⟩)
      (by decide +kernel)
    exact ⟨t, hrun, hlength.1 _ _ t hrun⟩
  · obtain ⟨t, hrun⟩ := Drv.run_of_toOption (m := mainWrite (pgmStlinkv2 stm8Devices[0] .answering)
      sampleOptions (some [0x55, 0xAA])) (s := ⟨.idle fun _ => 0xff, [], 0, 0, []⟩) (a := ⟨2, 2⟩)
      (by decide +kernel)
    exact ⟨t, hrun, hlength.2.1 _ _ t hrun⟩
  · obtain ⟨t, hrun⟩ := Drv.run_of_toOption (m := mainWrite (pgmStlinkv21 stm8Devices[0] .answering)
      sampleOptions (some [0x55, 0xAA])) (s := ⟨.idle fun _ => 0xff, [], 0, 0, []⟩) (a := ⟨2, 2⟩)
      (by decide +kernel)
    exact ⟨t, hrun, hlength.2.2.1 _ _ t hrun⟩
  · obtain ⟨t, hrun⟩ := Drv.run_of_toOption (m := mainWrite (pgmEspstlink stm8Devices[0] .answering)
      sampleOptions (some [0x55, 0xAA])) (s := ⟨.idle fun _ => 0xff, 0, []⟩) (a := ⟨2, 128⟩)
      (by decide +kernel)
    exact ⟨t, hrun, hrounded.2.2.2 _ _ t hrun⟩

/-- An ESP programmer whose answer to the eighth command is not accepted: in a write to flash
that is the first block. -/
def EspstlinkEnv.refusesBlock : EspstlinkEnv where
  hw := .ready
  answered := fun k => k != 7
  carriedOut := fun _ => false
  stackCurrent := fun _ => 0

/-- With it the WRITE action prints `OK`, and nothing has been written. -/
theorem mainWrite_short :
    ¬∀ (o : MainOptions) (env : EspstlinkEnv) (file : Option (List Byte)) (s t : EspstlinkState)
      (r : WriteReport), mainWrite (pgmEspstlink o.part env) o file s = (.ok r, t) →
        r.bytesToWrite ≤ r.sent := by
  intro hall
  obtain ⟨t, hrun⟩ := Drv.run_of_toOption
    (m := mainWrite (pgmEspstlink sampleOptions.part .refusesBlock) sampleOptions
      (some [0x55, 0xAA])) (s := ⟨.idle fun _ => 0xff, 0, []⟩) (a := ⟨2, 0⟩) (by decide +kernel)
  have hle := hall sampleOptions _ _ _ t _ hrun
  exact absurd hle (by decide)

end Stm8Flash
