import Stm8Flash.Espstlink.Commands
import Stm8Flash.Espstlink.Failures
import Stm8Flash.Locks

/-! # The ESP programmer and the locks

A run of `espstlink_swim_write_range` that returns ends with the lock, or with a block that could
not be sent (`espstlinkSwimWriteRange_ends`). In the first case `PUL` and `DUL` are clear unless
the lock itself fails, in the second they are as the keys have left them.
-/

namespace Stm8Flash

open Hex Word

/-- The run ends with the read or the write of `FLASH_IAPSR` that locks, and it has failed. -/
def EspstlinkState.LockFailed (d : Stm8Device) (s : EspstlinkState) : Prop :=
  ∃ cmd data, s.sent.getLast? = some (espstlinkCmd cmd 1 d.regs.flashIapsr ++ data, false)

/-- Both keys arrive: the CPU has been stalled by the commands `n` and `n + 1`, and the second
key is sent when the first has been answered. -/
def EspstlinkEnv.KeysArrive (env : EspstlinkEnv) (n : Nat) : Prop :=
  env.answered n = true ∧ env.answered (n + 1) = true ∧ env.answered (n + 2) = true ∧
    env.Effective (n + 3)

section Espstlink

variable {d : Stm8Device} {env : EspstlinkEnv} {memtype : Memtype}

/-- The lock at the end of a run. -/
theorem espstlinkLock_closed (hd : d.Sound)
    (hstored : memtype = .flash ∨ memtype = .eeprom ∨ memtype = .opt)
    {u t : EspstlinkState} (hrun : (espSwim d env).lock d memtype u = (.ok (), t))
    (hlock : ¬t.LockFailed d) : t.target.locks.Closed := by
  have hlt := hd.control_lt d.control_flashIapsr
  unfold EspSwim.lock at hrun
  rw [if_pos hstored, Drv.bind_ok (espstlinkReadByte_run (by omega) u)] at hrun
  by_cases hread : env.answered u.commands = true
  · have hbyte := (u.target.peek d env.hw d.regs.flashIapsr).toNat_lt
    rw [if_pos hread, if_pos (by omega),
      Drv.bind_ok (espstlinkWriteByte_run hd.one_lt (by omega) _ _)] at hrun
    cases hrun
    rw [EspstlinkState.command_target]
    rw [EspstlinkState.command_commands] at hlock ⊢
    by_cases hwrite : env.answered (u.commands + 1) = true
    · rw [if_pos (show env.Effective (u.commands + 1) from Or.inl hwrite), Target.poke_locks hd]
      exact Locks.masked_closed hd _ _
    · -- the write has failed
      refine absurd ⟨2, [UInt8.ofNat ((u.target.peek d env.hw d.regs.flashIapsr).toNat &&&
        0xfffffff5)], ?_⟩ hlock
      rw [EspstlinkState.command_sent, List.getLast?_concat, Bool.eq_false_iff.mpr hwrite]
  · -- the read has failed
    rw [if_neg hread, if_neg (by decide)] at hrun
    cases hrun
    refine absurd ⟨1, [], ?_⟩ hlock
    rw [EspstlinkState.command_sent, List.getLast?_concat, Bool.eq_false_iff.mpr hread,
      List.append_nil]

/-! ### A run that returns early -/

theorem espstlinkSwimRead_locks (addr size : Nat) :
    Drv.Keeps (fun s => s.target.locks) ((espSwim d env).swimRead addr size) := by
  refine Drv.Keeps.bind ?_ fun _ => Drv.Keeps.pure _
  refine Drv.Keeps.state.bind fun s => (Drv.Keeps.change fun s' => ?_).bind fun _ =>
    Drv.Keeps.pure _
  have hcmd : (espstlinkCmd 1 size addr).getD 0 0 = 1 := rfl
  rw [EspstlinkState.command_target]
  split
  · rw [espstlinkReceive, hcmd, if_neg (by decide), if_pos rfl]
    exact Target.afterRead_locks _
  · rfl

/-- Bytes that go to other addresses than the lock registers. -/
theorem espstlinkSwimWrite_locks (hd : d.Sound) {buffer : List Byte} {addr size : Nat}
    (ha : addr < 16777216) (hsize : size < 256) (hlen : buffer.length = size)
    (hoff : ∀ k < size, ¬d.IsLock (addr + k)) :
    Drv.Keeps (fun s => s.target.locks) ((espSwim d env).swimWrite buffer addr size) := by
  intro s
  have hblock : ∀ p ∈ Image.block addr buffer, ¬d.IsLock p.1 := by
    intro p hp
    rcases Image.mem_block.mp hp with ⟨k, hk, rfl⟩
    exact hoff k (by omega)
  rw [espstlinkSwimWrite_run ha hsize hlen]
  simp only
  rw [EspstlinkState.command_target]
  split
  · rw [Target.write_locks hd, Locks.pokes_off hblock, ite_self]
  · rfl

theorem espstlinkWriteByte_locks (hd : d.Sound) {a : Nat} (ha : d.IsControl a)
    (hoff : ¬d.IsLock a) (v : Byte) :
    Drv.Keeps (fun s => s.target.locks) ((espSwim d env).writeByte v a) := by
  have hlt := hd.control_lt ha
  refine espstlinkSwimWrite_locks hd (by omega) (by decide) rfl fun k hk => ?_
  rw [show a + k = a by omega]
  exact hoff

/-- The CPU is stalled by two commands. -/
theorem espstlinkStall_run (hd : d.Sound) (s : EspstlinkState) :
    ∃ u, (espSwim d env).stall true s =
        (.ok (env.answered s.commands && env.answered (s.commands + 1)), u) ∧
      u.target.locks = s.target.locks ∧
      (env.answered s.commands = true → u.commands = s.commands + 2) := by
  have hcsr : espstlinkDmCsr2 = d.regs.flashDmCsr2 := hd.flashDmCsr2.symm
  have hlt := hd.control_lt d.control_flashDmCsr2
  rcases hd.lock_ne with ⟨-, -, -, hoff, -⟩
  have hread := @espstlinkReadByte_run d env d.regs.flashDmCsr2 (by omega) s
  have hkept := (EspSwim.readByte_keeps (@espstlinkSwimRead_locks d env) _).of_run hread
  unfold EspSwim.stall
  rw [hcsr, Drv.bind_ok hread]
  by_cases hanswered : env.answered s.commands = true
  · have hbyte := (s.target.peek d env.hw d.regs.flashDmCsr2).toNat_lt
    rw [if_pos hanswered, if_neg (by omega), hanswered, Bool.true_and]
    rw [hanswered] at hkept
    generalize hu : s.command (espstlinkCmd 1 1 d.regs.flashDmCsr2) true _ = u at hkept ⊢
    have hcommands : u.commands = s.commands + 1 := by rw [← hu, EspstlinkState.command_commands]
    have hwritten := @espstlinkWriteByte_locks d env hd _ d.control_flashDmCsr2 hoff
      (UInt8.ofNat (if true = true then (s.target.peek d env.hw d.regs.flashDmCsr2).toNat ||| 8
        else (s.target.peek d env.hw d.regs.flashDmCsr2).toNat &&& 0xFFFFFFF7)) u
    rw [espstlinkWriteByte_run hd.one_lt (by omega)] at hwritten ⊢
    refine ⟨_, by rw [hcommands], hwritten.trans hkept, fun _ => ?_⟩
    rw [EspstlinkState.command_commands, hcommands]
  · -- the register could not be read
    rw [if_neg hanswered, if_pos rfl, Bool.eq_false_iff.mpr hanswered]
    rw [Bool.eq_false_iff.mpr hanswered] at hkept
    exact ⟨_, rfl, hkept, fun h => absurd h (by decide)⟩

/-- The keys of a register. -/
def Stm8Device.IsKeys (d : Stm8Device) (first second : Byte) (reg : Nat) : Prop :=
  (reg = d.regs.flashPukr ∧ first = 0x56 ∧ second = 0xae) ∨
    (reg = d.regs.flashDukr ∧ first = 0xae ∧ second = 0x56)

/-- The first key opens nothing, the second one does after it. -/
theorem Stm8Device.IsKeys.closed (hd : d.Sound) {first second : Byte} {reg : Nat}
    (h : d.IsKeys first second reg) (l : Locks) :
    ((l.poke d (reg, first)).Closed ↔ l.Closed) ∧
      ¬((l.poke d (reg, first)).poke d (reg, second)).Closed := by
  rcases hd.lock_ne with ⟨-, -, -, -, -, -, -, hne⟩
  unfold Locks.poke Locks.Closed
  rcases h with ⟨rfl, rfl, rfl⟩ | ⟨rfl, rfl, rfl⟩
  · simp
  · simp [hne]

theorem espstlinkKeys_closed (hd : d.Sound) {first second : Byte} {reg : Nat}
    (h : d.IsKeys first second reg) (u : EspstlinkState) :
    ((espSwim d env).keys first second reg u).2.target.locks.Closed ↔
      u.target.locks.Closed ∧
        ¬(env.answered u.commands = true ∧ env.Effective (u.commands + 1)) := by
  have hlt : reg < 0x8000 := by
    rcases h with ⟨rfl, -⟩ | ⟨rfl, -⟩
    · exact hd.control_lt d.control_flashPukr
    · exact hd.control_lt d.control_flashDukr
  rcases h.closed hd u.target.locks with ⟨hfirst, hsecond⟩
  unfold EspSwim.keys
  rw [Drv.bind_ok (espstlinkWriteByte_run hd.one_lt (by omega) _ _)]
  by_cases hanswered : env.answered u.commands = true
  · have heffect : env.Effective u.commands := Or.inl hanswered
    rw [if_pos hanswered, if_pos heffect, espstlinkWriteByte_run hd.one_lt (by omega)]
    simp only
    rw [EspstlinkState.command_target, EspstlinkState.command_commands,
      EspstlinkState.command_target]
    by_cases hnext : env.Effective (u.commands + 1)
    · rw [if_pos hnext, Target.poke_locks hd, Target.poke_locks hd]
      exact iff_of_false hsecond fun hno => hno.2 ⟨hanswered, hnext⟩
    · rw [if_neg hnext, Target.poke_locks hd, hfirst]
      exact ⟨fun hclosed => ⟨hclosed, fun hkeys => hnext hkeys.2⟩, fun hclosed => hclosed.1⟩
  · -- the second key is not sent
    have hsame : (u.command (espstlinkCmd 2 1 reg ++ [first]) (env.answered u.commands)
        (if env.Effective u.commands then u.target.poke d reg first else
          u.target)).target.locks.Closed ↔ u.target.locks.Closed := by
      rw [EspstlinkState.command_target]
      split
      · rw [Target.poke_locks hd, hfirst]
      · exact Iff.rfl
    rw [if_neg hanswered]
    exact hsame.trans ⟨fun hclosed => ⟨hclosed, fun hkeys => hanswered hkeys.1⟩,
      fun hclosed => hclosed.1⟩

/-- What the preparation makes of the locks. -/
theorem espstlinkPrepareForFlash_closed (hd : d.Sound)
    (hstored : memtype = .flash ∨ memtype = .eeprom ∨ memtype = .opt)
    (s : EspstlinkState) :
    ((espSwim d env).prepareForFlash d memtype s).2.target.locks.Closed ↔
      s.target.locks.Closed ∧ ¬env.KeysArrive s.commands := by
  obtain ⟨u, hstall, hlocks, hcommands⟩ := @espstlinkStall_run d env hd s
  unfold EspSwim.prepareForFlash
  rw [Drv.bind_ok hstall]
  by_cases hok : (env.answered s.commands && env.answered (s.commands + 1)) = true
  · rcases Bool.and_eq_true_iff.mp hok with ⟨hread, hwrite⟩
    have harrive : env.answered u.commands = true ∧ env.Effective (u.commands + 1) ↔
        env.KeysArrive s.commands := by
      rw [hcommands hread]
      exact ⟨fun h => ⟨hread, hwrite, h.1, h.2⟩, fun h => ⟨h.2.2.1, h.2.2.2⟩⟩
    rw [if_pos hok, ← hlocks, ← harrive]
    cases memtype with
    | unknown => exact absurd hstored (by decide)
    | ram => exact absurd hstored (by decide)
    | eeprom => exact espstlinkKeys_closed hd (Or.inr ⟨rfl, rfl, rfl⟩) u
    | flash => exact espstlinkKeys_closed hd (Or.inl ⟨rfl, rfl, rfl⟩) u
    | opt => exact espstlinkKeys_closed hd (Or.inr ⟨rfl, rfl, rfl⟩) u
  · -- without the stall no key is sent
    rw [if_neg hok]
    show u.target.locks.Closed ↔ _
    rw [hlocks]
    refine ⟨fun hclosed => ⟨hclosed, fun h => hok ?_⟩, fun hclosed => hclosed.1⟩
    rw [h.1, h.2.1]
    rfl

/-- A round whose block lies off the lock registers. -/
theorem espstlinkWriteBlock_locks (hd : d.Sound) (memtype : Memtype) (buffer current : Nat → Byte)
    {start i : Nat} (hlim : start + i < 16777216)
    (hoff : ∀ k < d.flashBlockSize, ¬d.IsLock (start + i + k)) :
    Drv.Keeps (fun s => s.target.locks)
      ((espSwim d env).writeBlock d memtype buffer current start i) := by
  rcases hd.lock_ne with ⟨hcr2, hncr2, -⟩
  have hsize : d.flashBlockSize < 256 := by
    rcases hd.block_size with hb | hb <;> rw [hb] <;> decide
  refine EspSwim.writeBlock_keeps espstlinkSwimRead_locks ?_ ?_
  · exact EspSwim.enterBlock_keeps
      (fun hne v => espstlinkWriteByte_locks hd (d.control_flashNcr2 hne) hncr2 v)
      (fun v => espstlinkWriteByte_locks hd d.control_flashCr2 hcr2 v) memtype current i
  · rw [u32_of_lt (by omega)]
    exact espstlinkSwimWrite_locks hd hlim hsize (Image.slice_length _ _ _) hoff

/-- The blocks of a range off the lock registers. -/
theorem espstlinkWriteBlocks_locks (hd : d.Sound) (memtype : Memtype) (buffer : Nat → Byte)
    {start length : Nat} (hlim : start + blockRounds d length * d.flashBlockSize ≤ 16777216)
    (hoff : ∀ k < blockRounds d length * d.flashBlockSize, ¬d.IsLock (start + k)) :
    Drv.Keeps (fun s => s.target.locks)
      ((espSwim d env).writeBlocks d env.stackCurrent memtype buffer start length) := by
  have hpos := hd.one_lt
  refine (EspSwim.readRange_keeps espstlinkSwimRead_locks _ _ _).bind fun r => ?_
  refine Drv.Keeps.loopFrom _ fun j _ hj => ?_
  have hin := round_in_range (show j < blockRounds d length by omega)
  refine espstlinkWriteBlock_locks hd memtype _ _ (by omega) fun k hk => ?_
  rw [Nat.add_assoc]
  exact hoff _ (by omega)

/-- A run that returns ends with the lock, or with a block that could not be sent. -/
theorem espstlinkSwimWriteRange_ends (hd : d.Sound) {buffer : Nat → Byte} {start length : Nat}
    {s t : EspstlinkState} {v : Int}
    (hrun : espstlinkSwimWriteRange d env buffer start length memtype s = (.ok v, t)) :
    (t.failedBlocks = s.failedBlocks ∧ ∃ u, (espSwim d env).lock d memtype u = (.ok (), t)) ∨
      (t.failedBlocks ≠ s.failedBlocks ∧ ∃ u i,
        ((espSwim d env).prepareForFlash d memtype s).2 = u ∧
        (espSwim d env).writeBlocks d env.stackCurrent memtype buffer start length u =
          (.ok (some i), t)) := by
  have hframe := @failedBlocks_frame d env
  unfold espstlinkSwimWriteRange at hrun
  rcases Drv.bind_eq_ok.mp hrun with ⟨ok, s₁, hprepare, hrun⟩
  have hprepared := (hframe.prepareForFlash hd memtype).of_run hprepare
  by_cases hopt : memtype = .opt
  · rw [if_pos hopt] at hrun
    rcases Drv.bind_eq_ok.mp hrun with ⟨_, s₂, hbytes, hrun⟩
    rcases Drv.bind_eq_ok.mp hrun with ⟨_, s₃, hlock, hend⟩
    cases hend
    have hwritten := (espstlinkWriteOpt_keeps buffer start length).of_run hbytes
    have hlocked := (hframe.lock memtype).of_run hlock
    exact Or.inl ⟨hlocked.trans (hwritten.trans hprepared), s₂, hlock⟩
  · rw [if_neg hopt] at hrun
    rcases Drv.bind_eq_ok.mp hrun with ⟨failed, s₂, hblocks, hrun⟩
    have hfailures := (espstlinkWriteBlocks_failures hd memtype buffer start length).of_ok
      (show NoneFailed s.failedBlocks s₁ from hprepared) hblocks
    cases failed with
    | some i =>
      cases hrun
      refine Or.inr ⟨hfailures.2, s₁, i, ?_, hblocks⟩
      rw [hprepare]
    | none =>
      rcases Drv.bind_eq_ok.mp hrun with ⟨_, s₃, hlock, hend⟩
      cases hend
      have hlocked := (hframe.lock memtype).of_run hlock
      exact Or.inl ⟨hlocked.trans hfailures, s₂, hlock⟩

end Espstlink

end Stm8Flash
