import Stm8Flash.Espstlink.Trace
import Stm8Flash.Stlinkv2.Trace

/-! # Writing only the differences

`writeRange_wrote`: what `stlink2_swim_write_range` and `espstlink_swim_write_range` leave on
the target, for any device of the table, memory, buffer and request. Both rest on the
specifications of their modules; here the hardware is only asked to answer and to show `EOP`.
`writeRange_minimal`: which blocks they program on the way.
-/

namespace Stm8Flash

open Hex

/-- The two writes return, and the target has been written. At first no block programming mode
waits for its block (`Target.Clear`), as after the reset at connection. -/
theorem writeRange_wrote {d : Stm8Device} (hd : d ∈ stm8Devices) (memtype : Memtype)
    (buffer : Nat → Byte) {start length : Nat} (h : DataRange d start length) :
    (∀ env : Stlinkv2Env, env.NoFailure → env.hw.SeesEop → ∀ s : Stlinkv2State, s.target.Clear →
      ∃ v s', stlink2SwimWriteRange d env buffer start length memtype s = (.ok v, s') ∧
        Wrote d s.target s'.target buffer start length) ∧
    (∀ env : EspstlinkEnv, env.NoFailure → env.hw.SeesEop → ∀ s : EspstlinkState,
      s.target.Clear →
      ∃ v s', espstlinkSwimWriteRange d env buffer start length memtype s = (.ok v, s') ∧
        Wrote d s.target s'.target buffer start length) := by
  have hsound := stm8Devices_sound d hd
  constructor
  · intro env hok hsees s hclear
    have hspec := @stlink2SwimWriteRange_spec d env s.target.mem hsound hok hsees memtype buffer
      start length h.below h.aligned h.data
    obtain ⟨v, s', hrun, -, hready⟩ := hspec.returns ⟨fun _ _ => rfl, hclear⟩
    exact ⟨v, s', hrun, Wrote.of_holds hsound h hready.1⟩
  · intro env hok hsees s hclear
    have hspec := @espstlinkSwimWriteRange_spec d env s.target.mem hsound hok hsees memtype buffer
      start length h.below h.aligned h.data
    obtain ⟨v, s', hrun, -, hready⟩ := hspec.returns ⟨fun _ _ => rfl, hclear⟩
    exact ⟨v, s', hrun, Wrote.of_holds hsound h hready.1⟩

/-- A flash or EEPROM write programs the blocks that differ from what is to be there, one by one in
increasing order, each in fast mode where the target is all zero and in standard mode where it is
not; and the same write once more programs none. The buffer behind the data, which the first call
completes, may have changed. -/
theorem writeRange_minimal {d : Stm8Device} (hd : d ∈ stm8Devices) {memtype : Memtype}
    (hmem : memtype = .flash ∨ memtype = .eeprom) {buffer buffer' : Nat → Byte} {start length : Nat}
    (h : DataRange d start length) (hsame : ∀ k < length, buffer' k = buffer k) :
    (∀ env : Stlinkv2Env, env.NoFailure → env.hw.SeesEop → ∀ s : Stlinkv2State, s.target.Clear →
      ∃ v t v' u, stlink2SwimWriteRange d env buffer start length memtype s = (.ok v, t) ∧
        t.programming d =
          s.programming d ++ stlink2ChangedTransfers d s.target.mem buffer start length ∧
        stlink2SwimWriteRange d env buffer' start length memtype t = (.ok v', u) ∧
        u.programming d = t.programming d) ∧
    (∀ env : EspstlinkEnv, env.NoFailure → env.hw.SeesEop → ∀ s : EspstlinkState,
      s.target.Clear →
      ∃ v t v' u, espstlinkSwimWriteRange d env buffer start length memtype s = (.ok v, t) ∧
        t.programming d =
          s.programming d ++ espstlinkChangedCmds d s.target.mem buffer start length ∧
        espstlinkSwimWriteRange d env buffer' start length memtype t = (.ok v', u) ∧
        u.programming d = t.programming d) := by
  have hsound := stm8Devices_sound d hd
  have hblock : memtype.isBlock = true := by
    rcases hmem with rfl | rfl <;> rfl
  -- after the first write the range holds the buffer
  have hnone {m : Nat → Byte} {t : Target} (ht : t.Holds d (written m buffer start length)) :
      changedBlocks d t.mem buffer' start length = [] :=
    changedBlocks_nil fun k hk => by
      rw [ht _ (h.data_at hsound hk), written_at hk, hsame k hk]
  constructor
  · intro env hok hsees s hclear
    have hspec m new := @stlink2SwimWriteRange_spec d env m hsound hok hsees memtype new start
      length h.below h.aligned h.data
    obtain ⟨v, t, hrun, -, hready⟩ := (hspec s.target.mem buffer).returns ⟨fun _ _ => rfl, hclear⟩
    obtain ⟨v', u, hrun', -⟩ := (hspec _ buffer').returns hready
    have hfirst := stlink2SwimWriteRange_programming hsound hok hblock h hrun
    have hsecond := stlink2SwimWriteRange_programming hsound hok hblock h hrun'
    rw [stlink2ChangedTransfers, hnone hready.1, List.flatMap_nil, List.append_nil] at hsecond
    exact ⟨v, t, v', u, hrun, hfirst, hrun', hsecond⟩
  · intro env hok hsees s hclear
    have hspec m new := @espstlinkSwimWriteRange_spec d env m hsound hok hsees memtype new start
      length h.below h.aligned h.data
    obtain ⟨v, t, hrun, -, hready⟩ := (hspec s.target.mem buffer).returns ⟨fun _ _ => rfl, hclear⟩
    obtain ⟨v', u, hrun', -⟩ := (hspec _ buffer').returns hready
    have hfirst := espstlinkSwimWriteRange_programming hsound hok hblock h hrun
    have hsecond := espstlinkSwimWriteRange_programming hsound hok hblock h hrun'
    rw [espstlinkChangedCmds, hnone hready.1, List.flatMap_nil, List.append_nil] at hsecond
    exact ⟨v, t, v', u, hrun, hfirst, hrun', hsecond⟩

/-! ## An environment in which nothing fails -/

/-- An ST-Link V2 that answers every command at once. -/
def Stlinkv2Env.answering : Stlinkv2Env where
  hw := .ready
  readBufSize := 6144
  transferred := fun _ => true
  replies := fun _ => [(0, 0, 0, 0)]
  stackStatus := fun _ => (0, 0, 0, 0)
  stackCurrent := fun _ => 0

theorem Stlinkv2Env.answering_noFailure : Stlinkv2Env.answering.NoFailure where
  transferred := fun _ => rfl
  polled := fun _ => rfl
  readBufSize_pos := by decide
  readBufSize_lt := by decide

/-- An ESP programmer that answers every command. -/
def EspstlinkEnv.answering : EspstlinkEnv where
  hw := .ready
  answered := fun _ => true
  carriedOut := fun _ => true
  stackCurrent := fun _ => 0

/-- Three quarters of a block of flash. -/
theorem writeRange_wrote_flash :
    (∃ v s', stlink2SwimWriteRange stm8Devices[0] .answering (fun k => UInt8.ofNat k) 0x8000 100
        .flash ⟨.idle fun _ => 0xff, [], 0, 0, []⟩ = (.ok v, s') ∧
      Wrote stm8Devices[0] (.idle fun _ => 0xff) s'.target (fun k => UInt8.ofNat k) 0x8000 100) ∧
    (∃ v s', espstlinkSwimWriteRange stm8Devices[0] .answering (fun k => UInt8.ofNat k) 0x8000 100
        .flash ⟨.idle fun _ => 0xff, 0, []⟩ = (.ok v, s') ∧
      Wrote stm8Devices[0] (.idle fun _ => 0xff) s'.target (fun k => UInt8.ofNat k) 0x8000 100) := by
  have hrange : DataRange stm8Devices[0] 0x8000 100 :=
    .of_flash (stm8Devices_sound _ (List.getElem_mem _)) (by decide) (by decide) (by decide)
  have hboth := writeRange_wrote (List.getElem_mem _) .flash (fun k => UInt8.ofNat k) hrange
  constructor
  · exact hboth.1 .answering Stlinkv2Env.answering_noFailure Hardware.ready_seesEop _ (Or.inl rfl)
  · exact hboth.2 .answering (fun _ => rfl) Hardware.ready_seesEop _ (Or.inl rfl)

/-- The same bytes twice. -/
theorem writeRange_minimal_flash :
    (∃ v t v' u, stlink2SwimWriteRange stm8Devices[0] .answering (fun k => UInt8.ofNat k) 0x8000
        100 .flash ⟨.idle fun _ => 0xff, [], 0, 0, []⟩ = (.ok v, t) ∧
      t.programming stm8Devices[0] = [] ++
        stlink2ChangedTransfers stm8Devices[0] (fun _ => 0xff) (fun k => UInt8.ofNat k) 0x8000 100 ∧
      stlink2SwimWriteRange stm8Devices[0] .answering (fun k => UInt8.ofNat k) 0x8000 100 .flash t =
        (.ok v', u) ∧ u.programming stm8Devices[0] = t.programming stm8Devices[0]) ∧
    (∃ v t v' u, espstlinkSwimWriteRange stm8Devices[0] .answering (fun k => UInt8.ofNat k) 0x8000
        100 .flash ⟨.idle fun _ => 0xff, 0, []⟩ = (.ok v, t) ∧
      t.programming stm8Devices[0] = [] ++
        espstlinkChangedCmds stm8Devices[0] (fun _ => 0xff) (fun k => UInt8.ofNat k) 0x8000 100 ∧
      espstlinkSwimWriteRange stm8Devices[0] .answering (fun k => UInt8.ofNat k) 0x8000 100 .flash
        t = (.ok v', u) ∧ u.programming stm8Devices[0] = t.programming stm8Devices[0]) := by
  have hrange : DataRange stm8Devices[0] 0x8000 100 :=
    .of_flash (stm8Devices_sound _ (List.getElem_mem _)) (by decide) (by decide) (by decide)
  have hboth := writeRange_minimal (List.getElem_mem _) (Or.inl rfl) hrange
    (fun k _ => (rfl : UInt8.ofNat k = UInt8.ofNat k))
  constructor
  · exact hboth.1 .answering Stlinkv2Env.answering_noFailure Hardware.ready_seesEop
      ⟨.idle fun _ => 0xff, [], 0, 0, []⟩ (Or.inl rfl)
  · exact hboth.2 .answering (fun _ => rfl) Hardware.ready_seesEop ⟨.idle fun _ => 0xff, 0, []⟩
      (Or.inl rfl)

end Stm8Flash
