import Stm8Flash.Stlink.Commands

/-! # ST-Link V1: reading and writing a range

Where nothing fails, `stlink_swim_read_range` and `stlink_swim_write_range` return; and however
the programmer answers, a write that returns leaves the target with the buffer at the range and
zeros up to the end of the last block (`stlinkSwimWriteRange_spec`).
-/

namespace Stm8Flash

open Hex Word

/-! ## Runs in which nothing fails -/

section Returns

variable {d : Stm8Device} {env : StlinkEnv}

theorem stlinkReadChunk_returns (hok : env.NoFailure) {start length i : Nat}
    (hlt : length < 2147483648) (buffer : Nat → Byte) :
    Drv.Returns (stlinkReadChunk d env start length i buffer) := by
  refine Drv.Returns.ite (fun _ => ?_) fun hbig =>
    absurd (show length - i < 2147483648 by omega) hbig
  apply (stlinkCmd_returns hok _ _ _ _).bind
  intro _
  apply (stlinkSwimWait_returns hok).bind
  intro _
  apply Drv.Returns.state.bind
  intro _
  apply (stlinkCmd_returns hok _ _ _ _).bind
  intro _
  exact Drv.Returns.pure _

theorem stlinkSwimReadRange_returns (hok : env.NoFailure) {start length : Nat}
    (hlt : length < 2147483648) (buffer : Nat → Byte) :
    Drv.Returns (stlinkSwimReadRange d env buffer start length) := by
  apply (stlinkInitSession_returns hok).bind
  intro _
  apply (stlinkSwimWriteByte_returns hok _ _).bind
  intro _
  refine (Drv.Returns.foldFrom _ (fun j buffer _ _ =>
    stlinkReadChunk_returns hok hlt buffer) _).bind fun _ => ?_
  exact (stlinkFinishSession_returns hok).bind fun _ => Drv.Returns.pure _

theorem stlinkSwimWriteBlock_returns (hd : d.Sound) (hok : env.NoFailure) (data : List Byte)
    (start : Nat) : Drv.Returns (stlinkSwimWriteBlock d env data start d.flashBlockSize 0) := by
  -- the assertions of the C code, for the two block sizes
  have hasserts : 0 ≤ 1 ∧ 8 - 0 + (d.flashBlockSize + 0 - 8) = d.flashBlockSize ∧ 8 - 0 + 0 ≤ 8 ∧
      d.flashBlockSize + 0 - 8 < stlkMaxWrite - 6 ∧ 8 - 0 > 0 ∧ d.flashBlockSize + 0 - 8 > 0 := by
    rcases hd.block_size with hb | hb <;> rw [hb] <;> decide
  refine Drv.Returns.ite (fun _ => ?_) fun hno => absurd hasserts hno
  apply (stlinkSendCbw_returns hok _).bind
  intro _
  apply (stlinkTransfer_returns hok).bind
  intro _
  apply (Drv.Returns.change _).bind
  intro _ s
  rcases stlinkTransfer_returns hok s with ⟨k, t, hrun⟩
  have hcsw : stlinkReadCsw env s = (.ok (env.csw k), t) := Drv.bind_ok hrun _
  obtain ⟨result, u, hwait⟩ := stlinkSwimWait_returns (d := d) hok t
  refine ⟨result, u, (Drv.bind_ok hcsw _).trans ?_⟩
  rw [hok.csw, if_pos rfl]
  exact hwait

theorem stlinkWriteRound_returns (hd : d.Sound) (hok : env.NoFailure) (memtype : Memtype)
    {start length i : Nat} (hlt : length < 2147483648) (buffer : Nat → Byte) :
    Drv.Returns (stlinkWriteRound d env memtype buffer start length i) := by
  refine Drv.Returns.ite (fun _ => ?_) fun hbig =>
    absurd (show length - i < 2147483648 by omega) hbig
  refine (Drv.Returns.when ?_).bind fun _ => ?_
  · exact (stlinkSwimWriteByte_returns hok _ _).bind fun _ =>
      Drv.Returns.when (stlinkSwimWriteByte_returns hok _ _)
  · exact (stlinkSwimWriteBlock_returns hd hok _ _).bind fun _ =>
      Drv.Returns.when (Drv.Returns.change _)

theorem stlinkUnlock_returns (hok : env.NoFailure) (memtype : Memtype) :
    Drv.Returns (stlinkUnlock d env memtype) := by
  have hbyte := fun v a => stlinkSwimWriteByte_returns (d := d) hok v a
  apply (Drv.Returns.when (hbyte _ _)).bind
  intro _
  apply (Drv.Returns.when ((hbyte _ _).bind fun _ => hbyte _ _)).bind
  intro _
  apply (Drv.Returns.when ((hbyte _ _).bind fun _ => hbyte _ _)).bind
  intro _
  exact Drv.Returns.when (hbyte _ _)

theorem stlinkSwimWriteRange_returns (hd : d.Sound) (hok : env.NoFailure) (memtype : Memtype)
    {start length : Nat} (hlt : length < 2147483648) (buffer : Nat → Byte) :
    Drv.Returns (stlinkSwimWriteRange d env buffer start length memtype) := by
  apply (stlinkInitSession_returns hok).bind
  intro _
  apply (stlinkSwimWriteByte_returns hok _ _).bind
  intro _
  apply (stlinkUnlock_returns hok memtype).bind
  intro _
  refine (Drv.Returns.forFrom _ fun j _ _ =>
    stlinkWriteRound_returns hd hok memtype hlt buffer).bind fun _ => ?_
  apply (Drv.Returns.when (stlinkSwimWriteByte_returns hok _ _)).bind
  intro _
  exact (stlinkFinishSession_returns hok).bind fun _ => Drv.Returns.pure _

end Returns

/-! ## What a write does to the target -/

/-- The buffer with zeros after its first `length` bytes. -/
def zeroPadded (buffer : Nat → Byte) (length : Nat) : Nat → Byte :=
  fun k => if k < length then buffer k else 0

theorem stlinkBlock_eq {d : Stm8Device} (buffer : Nat → Byte) {length i : Nat} (hi : i < length) :
    stlinkBlock d buffer length i = Image.slice (zeroPadded buffer length) i d.flashBlockSize := by
  have hsize : (if length - i > d.flashBlockSize then d.flashBlockSize else length - i) ≤
      d.flashBlockSize := by
    split <;> omega
  have hinside : ∀ k < d.flashBlockSize,
      (k < (if length - i > d.flashBlockSize then d.flashBlockSize else length - i) ↔
        i + k < length) := by
    intro k hk
    split <;> omega
  unfold stlinkBlock
  generalize (if length - i > d.flashBlockSize then d.flashBlockSize else length - i) = blockSize
    at hsize hinside
  apply List.ext_getElem
  · simp only [List.length_append, Image.slice_length, List.length_replicate]
    omega
  · intro k hk hk'
    rw [Image.slice_length] at hk'
    have hiff := hinside k hk'
    rw [Image.slice_getElem, zeroPadded]
    by_cases hlt : k < blockSize
    · rw [if_pos (hiff.mp hlt), List.getElem_append_left (by simpa using hlt), Image.slice_getElem]
    · -- behind the end of the data the block is filled with zeros
      rw [if_neg fun h => hlt (hiff.mpr h), List.getElem_append_right (by simpa using hlt),
        List.getElem_replicate]

section Target

variable {d : Stm8Device} {env : StlinkEnv} {m : Nat → Byte} {t : Target}

/-- A block write writes its block. -/
theorem stlinkSwimWriteBlock_spec {data : List Byte} {start length : Nat}
    (hlen : data.length = length) (hlt : length < 65536) :
    Drv.Triple (fun s => s.target = t) (stlinkSwimWriteBlock d env data start length 0)
      (fun _ s => s.target = t.write d (start % 65536) data) (fun _ _ => True) := by
  have hafter {α : Type} {prog : Stlink α} (h : Drv.Keeps StlinkState.seen prog) (u : Target) :=
    inMode_of_seen h (P := fun t => t = u)
  refine Drv.Triple.ite (fun hasserts => ?_) fun _ => Drv.Triple.stop fun _ _ => trivial
  refine Drv.Triple.bind (Q := fun _ s => s.target = t) ?_ fun _ => ?_
  · exact (hafter stlinkTransfer_seen t).bind fun _ => Drv.Triple.change fun s hs => hs
  refine (hafter stlinkTransfer_seen t).bind fun _ => ?_
  refine Drv.Triple.bind (Q := fun _ s => s.target = t.write d (start % 65536) data)
    (Drv.Triple.change fun s hs => ?_) fun _ => ?_
  · rw [stlinkReceive_block hlen (by omega) hlt, StlinkState.setTarget_target, hs]
  refine (hafter stlinkReadCsw_seen _).bind fun csw => ?_
  exact Drv.Triple.ite (fun _ => hafter stlinkSwimWait_seen _)
    fun _ => Drv.Triple.stop fun _ _ => trivial

/-- Standard block programming has been selected, where it is needed. -/
def StandardMode (d : Stm8Device) (memtype : Memtype) (m : Nat → Byte) (t : Target) : Prop :=
  t.Holds d m ∧ if memtype.isStored then t.mode = .standard else t.Clear

theorem stlinkEnterBlock_spec (hd : d.Sound) (memtype : Memtype) :
    Drv.Triple (fun s => Target.Ready d m s.target) (stlinkEnterBlock d env memtype)
      (fun _ s => StandardMode d memtype m s.target) (fun _ _ => True) := by
  rcases hd.ne_cr2 with ⟨-, -, -, -, hncr2, -⟩
  unfold StandardMode
  refine Drv.Triple.when (fun hstored => ?_) fun hno s hs => ?_
  · intro s hs
    have hrun : Drv.Triple (fun u => Target.InMode d m s.target.mode u.target) (do
        let _ ← stlinkSwimWriteByte d env 0x01 d.regs.flashCr2
        Drv.when (d.regs.flashNcr2 ≠ 0) (stlinkSwimWriteByte d env 0xFE d.regs.flashNcr2))
        (fun _ u => Target.InMode d m .standard u.target) (fun _ _ => True) := by
      refine (stlinkSwimWriteByte_cr2 hd 0x01).bind fun _ => ?_
      refine Drv.Triple.when (fun h => ?_) fun _ _ hs => hs
      exact stlinkSwimWriteByte_control hd (d.control_flashNcr2 h) hncr2 _
    refine (hrun.post fun _ u hu => ?_) s ⟨hs.1, rfl⟩
    rw [if_pos hstored]
    exact hu
  · rw [if_neg hno]
    exact hs

/-- One round: the block, with its zeros, is on the target. -/
theorem stlinkWriteRound_spec (hd : d.Sound) (memtype : Memtype) {buffer : Nat → Byte}
    {start length i : Nat} (hi : i < length) (hlim : start + i + d.flashBlockSize ≤ 65536)
    (halign : (start + i) % d.flashBlockSize = 0)
    (ha : ∀ k < d.flashBlockSize, ¬d.IsControl (start + i + k)) :
    Drv.Triple
      (fun s => Target.Ready d (written m (zeroPadded buffer length) start i) s.target)
      (stlinkWriteRound d env memtype buffer start length i)
      (fun _ s => Target.Ready d
        (written m (zeroPadded buffer length) start (i + d.flashBlockSize)) s.target)
      (fun _ _ => True) := by
  have hpos := hd.one_lt
  -- the range lies below 64 KiB
  have haddr : u32 (start + i) % 65536 = start + i := by
    rw [u32_of_lt (by omega)]
    exact Nat.mod_eq_of_lt (by omega)
  refine Drv.Triple.ite (fun _ => ?_) fun _ => Drv.Triple.stop fun _ _ => trivial
  apply (stlinkEnterBlock_spec hd memtype).bind
  intro _
  apply Drv.Triple.of_part
  intro t ht
  rw [stlinkBlock_eq buffer hi]
  apply (stlinkSwimWriteBlock_spec (by simp) hd.block_lt).bind
  intro result
  rw [haddr]
  -- printing an error changes nothing
  have hkeep (u : Target) : Drv.Triple (fun s : StlinkState => s.target = u)
      (Drv.when (result &&& 0x01 ≠ 0) (Drv.change fun s : StlinkState => s.writeError))
      (fun _ s => s.target = u) (fun (_ : StlinkError) _ => True) :=
    Drv.Triple.when (fun _ => Drv.Triple.change fun s hs => hs) fun _ _ hs => hs
  apply (hkeep _).post
  intro _ s hs
  rw [hs]
  rcases ht with ⟨hholds, hmode⟩
  by_cases hstored : memtype.isStored = true
  · rw [if_pos hstored] at hmode
    obtain ⟨hdata, hbyte, -⟩ := Target.write_standard hholds hmode
      (Image.slice_length (zeroPadded buffer length) i d.flashBlockSize) halign
    rw [written_add]
    exact ⟨hdata, Or.inl hbyte⟩
  · rw [if_neg hstored] at hmode
    exact target_bytes hholds hmode ha

theorem stlinkUnlock_spec (hd : d.Sound) (memtype : Memtype) {mode : ProgMode} :
    Drv.Triple (fun s => Target.InMode d m mode s.target) (stlinkUnlock d env memtype)
      (fun _ s => Target.InMode d m mode s.target) (fun _ _ => True) := by
  rcases hd.ne_cr2 with ⟨-, hpukr, hdukr, hiapsr, -⟩
  have hbyte {a : Nat} (ha : d.IsControl a) (hne : a ≠ d.regs.flashCr2) (v : Byte) :
      Drv.Triple (fun s => Target.InMode d m mode s.target) (stlinkSwimWriteByte d env v a)
        (fun _ s => Target.InMode d m mode s.target) (fun _ _ => True) :=
    stlinkSwimWriteByte_control hd ha hne v
  have hlocked := hbyte d.control_flashIapsr hiapsr
  refine (Drv.Triple.when (fun _ => hlocked _) fun _ _ hs => hs).bind fun _ => ?_
  refine (Drv.Triple.when (fun _ => ?_) fun _ _ hs => hs).bind fun _ => ?_
  · exact (hbyte d.control_flashPukr hpukr _).bind fun _ => hbyte d.control_flashPukr hpukr _
  refine (Drv.Triple.when (fun _ => ?_) fun _ _ hs => hs).bind fun _ => ?_
  · exact (hbyte d.control_flashDukr hdukr _).bind fun _ => hbyte d.control_flashDukr hdukr _
  exact Drv.Triple.when (fun _ => hlocked _) fun _ _ hs => hs

/-- A session changes no data and no mode. -/
theorem stlinkSession_spec (hd : d.Sound) {mode : ProgMode} :
    Drv.Triple (fun s => Target.InMode d m mode s.target) (stlinkInitSession d env)
        (fun _ s => Target.InMode d m mode s.target) (fun _ _ => True) ∧
      Drv.Triple (fun s => Target.InMode d m mode s.target) (stlinkFinishSession d env)
        (fun _ s => Target.InMode d m mode s.target) (fun _ _ => True) := by
  have hseen : SeenOnly (fun s => Target.InMode d m mode s.target) (fun _ _ => True) :=
    fun _ _ h => inMode_of_seen h
  constructor
  · apply stlinkInitSession_keeps hseen
    intro v
    exact stlinkSwimWriteByte_control hd d.control_swimCsr hd.swimCsr_ne_cr2 v
  · apply stlinkFinishSession_keeps hseen
    intro v
    exact stlinkSwimWriteByte_control hd d.control_swimCsr hd.swimCsr_ne_cr2 v

/-- A write that returns has written the buffer, and zeros after it up to the end of the last
block. -/
theorem stlinkSwimWriteRange_spec (hd : d.Sound) (memtype : Memtype) (buffer : Nat → Byte)
    {start length : Nat} (hlim : start + blockRounds d length * d.flashBlockSize ≤ 65536)
    (halign : start % d.flashBlockSize = 0)
    (ha : ∀ k < blockRounds d length * d.flashBlockSize, ¬d.IsControl (start + k)) :
    Drv.Triple (fun s => Target.Ready d m s.target)
      (stlinkSwimWriteRange d env buffer start length memtype)
      (fun _ s => Target.Ready d (written m (zeroPadded buffer length) start
        (blockRounds d length * d.flashBlockSize)) s.target) (fun _ _ => True) := by
  rcases hd.ne_cr2 with ⟨hckdivr, -, -, hiapsr, -⟩
  refine (ready_of_inMode fun mode => (stlinkSession_spec hd).1).bind fun _ => ?_
  refine (ready_of_inMode fun mode => stlinkSwimWriteByte_control hd d.control_clkCkdivr hckdivr
    0x00).bind fun _ => ?_
  refine (ready_of_inMode fun mode => stlinkUnlock_spec hd memtype).bind fun _ => ?_
  -- after `j` rounds the first `j` blocks are written, the last one with its zeros
  have hloop : Drv.Triple
      (fun s => Target.Ready d
        (written m (zeroPadded buffer length) start (0 * d.flashBlockSize)) s.target)
      (Drv.forFrom (fun j => stlinkWriteRound d env memtype buffer start length
        (j * d.flashBlockSize)) (blockRounds d length) 0)
      (fun _ s => Target.Ready d (written m (zeroPadded buffer length) start
        ((0 + blockRounds d length) * d.flashBlockSize)) s.target) (fun _ _ => True) := by
    refine Drv.Triple.forFrom (I := fun j (s : StlinkState) => Target.Ready d
      (written m (zeroPadded buffer length) start (j * d.flashBlockSize)) s.target) _
      fun j _ hj => ?_
    have hin := round_in_range (show j < blockRounds d length by omega)
    rw [Nat.add_mul, Nat.one_mul]
    refine stlinkWriteRound_spec hd memtype (round_start_lt hd (by omega)) (by omega) ?_ ?_
    · rw [Nat.add_mul_mod_self_right]
      exact halign
    · intro k hk
      rw [Nat.add_assoc]
      exact ha _ (by omega)
  rw [Nat.zero_mul, written_zero, Nat.zero_add] at hloop
  refine hloop.bind fun _ => ?_
  refine (ready_of_inMode fun mode => ?_).bind fun _ => ?_
  · exact Drv.Triple.when (fun _ => stlinkSwimWriteByte_control hd d.control_flashIapsr hiapsr _)
      fun _ _ hs => hs
  refine (ready_of_inMode fun mode => (stlinkSession_spec hd).2).bind fun _ => ?_
  exact Drv.Triple.pure fun _ hs => hs

end Target

/-! ## An environment in which nothing fails -/

/-- A programmer that does everything it is asked for at once. -/
def StlinkEnv.answering : StlinkEnv where
  hw := .ready
  transferred := fun _ => true
  missing := fun _ => 0
  csw := fun _ => 0
  status := fun _ => [0, 0, 0, 0]
  waits := fun _ => [[0, 0, 0, 0]]
  stackBuf := fun _ => [0, 0, 0, 0]

theorem StlinkEnv.answering_noFailure : StlinkEnv.answering.NoFailure where
  transferred := fun _ => rfl
  missing := fun _ => rfl
  csw := fun _ => rfl
  waits := fun _ => ⟨[0, 0, 0, 0], List.mem_singleton.mpr rfl, rfl, by decide⟩

/-- A programmer that has got nothing yet. -/
def StlinkState.fresh (mem : Nat → Byte) : StlinkState where
  target := .idle mem
  readbuf := []
  transfers := 0
  sent := []
  writeErrors := 0

end Stm8Flash
