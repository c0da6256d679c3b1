import Stm8Flash.DiffWrite
import Stm8Flash.Espstlink.Locks
import Stm8Flash.Stlink.Locks

/-! # Writes that lock again

`writeRange_locked_iff` says after which writes `PUL` and `DUL` are clear: always with ST-Link
V2; with ST-Link V1 not after the flash, because the value that it locks with has the bit of
`PUL` set; with the ESP programmer not when a block could not be sent, because then the function
returns without locking.
-/

namespace Stm8Flash

open Hex Word

/-! ## ST-Link V2 -/

/-- A write with ST-Link V2 that returns has locked. -/
theorem stlink2SwimWriteRange_closed {d : Stm8Device} (hd : d.Sound) {env : Stlinkv2Env}
    {memtype : Memtype}
    (hstored : memtype = .flash ∨ memtype = .eeprom ∨ memtype = .opt) {buffer : Nat → Byte}
    {start length : Nat} {s t : Stlinkv2State} {v : Int}
    (hrun : stlink2SwimWriteRange d env buffer start length memtype s = (.ok v, t)) :
    t.target.locks.Closed := by
  have hlt := hd.control_lt d.control_flashIapsr
  unfold stlink2SwimWriteRange at hrun
  rcases Drv.bind_eq_ok.mp hrun with ⟨_, s₁, -, hrun⟩
  rcases Drv.bind_eq_ok.mp hrun with ⟨_, s₂, -, hrun⟩
  rcases Drv.bind_eq_ok.mp hrun with ⟨_, s₃, -, hrun⟩
  rcases Drv.bind_eq_ok.mp hrun with ⟨_, s₄, hlock, hend⟩
  cases hend
  unfold stlink2Lock at hlock
  rw [if_pos hstored] at hlock
  rcases Drv.bind_eq_ok.mp hlock with ⟨iapsr, s₅, -, hwrite⟩
  have htarget := (swimWriteByte_spec (t := s₅.target) hd.one_lt (by omega) _).of_ok rfl hwrite
  rw [htarget, Target.poke_locks hd]
  exact Locks.masked_closed hd _ iapsr

/-! ## Which writes lock again -/

/-- A write to flash, EEPROM or option bytes that returns leaves `PUL` and `DUL` clear,

* with ST-Link V1, exactly when `PUL` is clear after its keys and after the data that it writes
  to the lock registers byte by byte; where there are no such data, exactly when it is not the
  flash that is written;
* with ST-Link V2, always;
* with the ESP programmer, when every block could be sent and neither the read nor the write of
  `FLASH_IAPSR` at the end fails; and where a block could not be sent, exactly when they were
  clear before and the keys do not arrive. -/
theorem writeRange_locked_iff {d : Stm8Device} (hd : d ∈ stm8Devices) {memtype : Memtype}
    (hstored : memtype = .flash ∨ memtype = .eeprom ∨ memtype = .opt) (buffer : Nat → Byte)
    (start length : Nat) :
    (∀ (env : StlinkEnv) s v t,
      stlinkSwimWriteRange d env buffer start length memtype s = (.ok v, t) →
      (t.target.locks.Closed ↔ (s.target.locks.pokes d (stlinkUnlockPokes d memtype ++
        stlinkDataPokes d buffer start length (blockRounds d length))).pul = false) ∧
      ((∀ p ∈ stlinkDataPokes d buffer start length (blockRounds d length), ¬d.IsLock p.1) →
        (t.target.locks.Closed ↔ memtype ≠ .flash))) ∧
    (∀ (env : Stlinkv2Env) s v t,
      stlink2SwimWriteRange d env buffer start length memtype s = (.ok v, t) →
      t.target.locks.Closed) ∧
    ∀ (env : EspstlinkEnv) s v t,
      espstlinkSwimWriteRange d env buffer start length memtype s = (.ok v, t) →
      (t.failedBlocks = s.failedBlocks → ¬t.LockFailed d → t.target.locks.Closed) ∧
      (t.failedBlocks ≠ s.failedBlocks →
        start + blockRounds d length * d.flashBlockSize ≤ 2 ^ 24 →
        (∀ k < blockRounds d length * d.flashBlockSize, ¬d.IsLock (start + k)) →
        (t.target.locks.Closed ↔ s.target.locks.Closed ∧ ¬env.KeysArrive s.commands)) := by
  have hsound := stm8Devices_sound d hd
  refine ⟨fun env s v t hrun => ?_, fun env s v t hrun => ?_, fun env s v t hrun => ?_⟩
  · have hlocks := (stlinkSwimWriteRange_locks hsound
      (Memtype.isStored_iff.mpr hstored) buffer start length).of_ok rfl hrun
    have hclosed : t.target.locks.Closed ↔ (s.target.locks.pokes d (stlinkUnlockPokes d memtype ++
        stlinkDataPokes d buffer start length (blockRounds d length))).pul = false := by
      rw [hlocks]
      exact Locks.stlinkLock_closed hsound
    refine ⟨hclosed, fun hoff => ?_⟩
    rw [hclosed, Locks.pokes_append, Locks.pokes_off hoff, stlinkUnlockPokes_pul hsound,
      decide_eq_false_iff_not]
  · exact stlink2SwimWriteRange_closed hsound hstored hrun
  · constructor
    · intro hsame hlock
      rcases espstlinkSwimWriteRange_ends hsound hrun with ⟨-, u, hend⟩ | ⟨hfailed, -⟩
      · exact espstlinkLock_closed hsound hstored hend hlock
      · exact absurd hsame hfailed
    · intro hne hlim hoff
      rcases espstlinkSwimWriteRange_ends hsound hrun with ⟨hsame, -⟩ | ⟨-, u, i, hprepare, hblocks⟩
      · exact absurd hsame hne
      · have hkept := @espstlinkWriteBlocks_locks d env hsound memtype buffer start length hlim hoff u
        rw [hblocks] at hkept
        simp only at hkept
        rw [hkept, ← hprepare]
        exact espstlinkPrepareForFlash_closed hsound hstored s

/-- An EEPROM write with ST-Link V1 and with ST-Link V2, and a flash write with the ESP programmer
whose block is lost. -/
theorem writeRange_locked_iff_lost :
    (∃ v t, stlinkSwimWriteRange stm8Devices[42] .answering (fun _ => 0x55) 0x4000 2 .eeprom
        (.fresh fun _ => 0xff) = (.ok v, t) ∧
      (t.target.locks.Closed ↔ Memtype.eeprom ≠ .flash)) ∧
    (∃ v t, stlink2SwimWriteRange stm8Devices[42] .answering (fun _ => 0x55) 0x4000 2 .eeprom
        ⟨.idle fun _ => 0xff, [], 0, 0, []⟩ = (.ok v, t) ∧ t.target.locks.Closed) ∧
    ∃ v t, espstlinkSwimWriteRange stm8Devices[42] (.losing 7 0) (fun _ => 0x55) 0x8000 2 .flash
        ⟨.idle fun _ => 0xff, 0, []⟩ = (.ok v, t) ∧
      (t.target.locks.Closed ↔ (Target.idle fun _ => 0xff).locks.Closed ∧
        ¬(EspstlinkEnv.losing 7 0).KeysArrive 0) := by
  have hd : stm8Devices[42] ∈ stm8Devices := List.getElem_mem _
  refine ⟨?_, ?_, ?_⟩
  · obtain ⟨v, t, hrun, -⟩ := Drv.run_of_returnsWith (p := fun _ _ => true)
      (m := stlinkSwimWriteRange stm8Devices[42] .answering (fun _ => 0x55) 0x4000 2 .eeprom)
      (s := .fresh fun _ => 0xff) (by decide +kernel)
    have hoff : ∀ p ∈ stlinkDataPokes stm8Devices[42] (fun _ => 0x55) 0x4000 2
        (blockRounds stm8Devices[42] 2), ¬stm8Devices[42].IsLock p.1 := by decide
    exact ⟨v, t, hrun, ((writeRange_locked_iff hd (Or.inr (Or.inl rfl)) _ _ _).1 _ _ _ _ hrun).2
      hoff⟩
  · obtain ⟨v, t, hrun, -⟩ := Drv.run_of_returnsWith (p := fun _ _ => true)
      (m := stlink2SwimWriteRange stm8Devices[42] .answering (fun _ => 0x55) 0x4000 2 .eeprom)
      (s := ⟨.idle fun _ => 0xff, [], 0, 0, []⟩) (by decide +kernel)
    exact ⟨v, t, hrun, (writeRange_locked_iff hd (Or.inr (Or.inl rfl)) _ _ _).2.1 _ _ _ _ hrun⟩
  · obtain ⟨v, t, hrun, hcheck⟩ := Drv.run_of_returnsWith (p := fun _ t =>
        decide (t.failedBlocks ≠ []))
      (m := espstlinkSwimWriteRange stm8Devices[42] (.losing 7 0) (fun _ => 0x55) 0x8000 2 .flash)
      (s := ⟨.idle fun _ => 0xff, 0, []⟩) (by decide +kernel)
    exact ⟨v, t, hrun, ((writeRange_locked_iff hd (Or.inl rfl) _ _ _).2.2 _ _ _ _ hrun).2
      (of_decide_eq_true hcheck) (by decide) (by decide)⟩

/-- After two bytes of flash with ST-Link V1, and after a block of flash that the ESP programmer
has lost, `PUL` is still set. -/
theorem writeRange_stays_open :
    (∃ v t, stlinkSwimWriteRange stm8Devices[42] .answering (fun _ => 0x55) 0x8000 2 .flash
        (.fresh fun _ => 0xff) = (.ok v, t) ∧ ¬t.target.locks.Closed) ∧
    ∃ v t, espstlinkSwimWriteRange stm8Devices[42] (.losing 7 0) (fun _ => 0x55) 0x8000 2 .flash
        ⟨.idle fun _ => 0xff, 0, []⟩ = (.ok v, t) ∧
      ¬t.LockFailed stm8Devices[42] ∧ ¬t.target.locks.Closed := by
  constructor
  · obtain ⟨v, t, hrun, hcheck⟩ := Drv.run_of_returnsWith (p := fun _ t =>
        decide ¬t.target.locks.Closed)
      (m := stlinkSwimWriteRange stm8Devices[42] .answering (fun _ => 0x55) 0x8000 2 .flash)
      (s := .fresh fun _ => 0xff) (by decide +kernel)
    exact ⟨v, t, hrun, of_decide_eq_true hcheck⟩
  · -- the last command is a block of 64 bytes
    obtain ⟨v, t, hrun, hcheck⟩ := Drv.run_of_returnsWith (p := fun _ t =>
        decide (t.sent.getLast?.map (fun c => c.1.getD 1 0) = some 64 ∧
          ¬t.target.locks.Closed))
      (m := espstlinkSwimWriteRange stm8Devices[42] (.losing 7 0) (fun _ => 0x55) 0x8000 2 .flash)
      (s := ⟨.idle fun _ => 0xff, 0, []⟩) (by decide +kernel)
    rcases of_decide_eq_true hcheck with ⟨hlast, hopen⟩
    refine ⟨v, t, hrun, ?_, hopen⟩
    rintro ⟨cmd, data, hsent⟩
    rw [hsent] at hlast
    have hsize : (1 : Byte) = 64 := Option.some.inj hlast
    exact absurd hsize (by decide)

end Stm8Flash
