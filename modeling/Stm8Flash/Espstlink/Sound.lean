import Stm8Flash.Espstlink.Locks

/-! # What a completed write of the ESP back end has stored

`espstlink_swim_write_range` looks at the answers to its block writes and at no other: a failed
unlock, a failed pre-read, a failed write to `FLASH_CR2` or a failed option byte goes unnoticed,
and the value returned is the same. `espstlinkSwimWriteRange_sound_iff` says, round by round,
in which runs that report completion the target nevertheless holds the buffer. The condition is
about what the target held before the run, what the stack held, which commands have their effect,
and which memories are unlocked when the bytes arrive; what the pre-read makes of it is
`espstlinkReadLoop_received`. The runs are those with a target that minds its locks
(`espLocking`); what the unlock commands make of these is `EspstlinkBlockRound.closed_iff`.
-/

namespace Stm8Flash

open Hex Word

/-- The memory of a target that minds its locks: bytes that are written to a locked memory have no
effect. -/
def espLocking (d : Stm8Device) (env : EspstlinkEnv) : EspSwim EspstlinkState EspstlinkError where
  swimRead := espstlinkSwimRead d env
  swimWrite buffer addr size := do
    let before ← Drv.state
    let ok ← espstlinkSwimWrite d env buffer addr size
    Drv.change fun s => { s with target := before.target.heldBack d s.target }
    pure ok

section Rounds

variable (d : Stm8Device) (env : EspstlinkEnv) (buffer : Nat → Byte) (start length : Nat)
  (memtype : Memtype)

/-- The run from `s` comes to the round `j` of the block loop in the state `u`; its pre-read has
received `received` bytes and left `current`. -/
def EspstlinkBlockRound (s : EspstlinkState) (j : Nat) (received : Int) (current : Nat → Byte)
    (u : EspstlinkState) : Prop :=
  ∃ t, (do
      let _ ← (espLocking d env).prepareForFlash d memtype
      (espLocking d env).readRange env.stackCurrent start (roundedSize d length)) s =
        (.ok (received, current), t) ∧
    Drv.loopFrom (fun j => (espLocking d env).writeBlock d memtype
      (mergeTail buffer current length (roundedSize d length)) current start
      (j * d.flashBlockSize)) j 0 t = (.ok none, u)

/-- The run from `s` comes to the option byte `j` in the state `u`. -/
def EspstlinkByteRound (s : EspstlinkState) (j : Nat) (u : EspstlinkState) : Prop :=
  ∃ t, (do
      let _ ← (espLocking d env).prepareForFlash d .opt
      let _ ← (espLocking d env).writeByte 0x80 d.regs.flashCr2
      (espLocking d env).writeNcr2 d 0x7F) s = (.ok (), t) ∧
    Drv.forFrom ((espLocking d env).optByte d buffer start) j 0 t = (.ok (), u)

end Rounds

/-! ## Commands to a target that minds its locks -/

section Locking

variable {d : Stm8Device} {env : EspstlinkEnv}

/-- A write and what it does, whether its answer is accepted or not. -/
theorem espLocking_swimWrite_run {buffer : List Byte} {addr size : Nat} (ha : addr < 16777216)
    (hsize : size < 256) (hlen : buffer.length = size) (s : EspstlinkState) :
    (espLocking d env).swimWrite buffer addr size s = (.ok (env.answered s.commands),
      s.command (espstlinkCmd 2 size addr ++ buffer) (env.answered s.commands)
        (if env.Effective s.commands then s.target.heldBack d (s.target.write d addr buffer)
          else s.target)) := by
  have hrun := @espstlinkSwimWrite_run d env buffer addr size ha hsize hlen s
  rw [espSwim_swimWrite] at hrun
  unfold espLocking
  dsimp only
  rw [Drv.state_bind_run, Drv.bind_ok hrun, Drv.change_bind_run, Drv.pure_run]
  by_cases heffect : env.Effective s.commands
  · rw [if_pos heffect, if_pos heffect]
    rfl
  · rw [if_neg heffect, if_neg heffect, EspstlinkState.command_target, Target.heldBack_self]
    rfl

theorem espLocking_writeByte_run (hb : 1 < d.flashBlockSize) {a : Nat} (ha : a < 16777216)
    (v : Byte) (s : EspstlinkState) :
    (espLocking d env).writeByte v a s = (.ok (env.answered s.commands),
      s.command (espstlinkCmd 2 1 a ++ [v]) (env.answered s.commands)
        (if env.Effective s.commands then s.target.heldBack d (s.target.poke d a v)
          else s.target)) := by
  rw [← Target.write_one hb]
  exact espLocking_swimWrite_run ha (show 1 < 256 by decide) rfl s

/-- To hold bytes back does not show in the locks. -/
theorem espLocking_swimWrite_locks {bs : List Byte} {addr size : Nat}
    (h : Drv.Keeps (fun s => s.target.locks) ((espSwim d env).swimWrite bs addr size)) :
    Drv.Keeps (fun s => s.target.locks) ((espLocking d env).swimWrite bs addr size) := by
  intro s
  have hkept := h s
  rw [espSwim_swimWrite] at hkept
  unfold espLocking
  dsimp only
  rw [Drv.state_bind_run, Drv.bind_run]
  rcases hrun : espstlinkSwimWrite d env bs addr size s with ⟨e | ok, u⟩
  · rw [hrun] at hkept
    exact hkept
  · rw [hrun] at hkept
    exact hkept

end Locking

/-! ## What commands do to a byte of the target -/

section Bytes

variable {d : Stm8Device} {env : EspstlinkEnv} {x : Nat}

/-- The byte `x` of the target. -/
def EspstlinkState.byteAt (x : Nat) (s : EspstlinkState) : Byte := s.target.mem x

theorem espstlinkCommand_byteAt {p data : List Byte}
    (h : ∀ t : Target, (espstlinkReceive d p data t).mem x = t.mem x) :
    Drv.Keeps (EspstlinkState.byteAt x) (espstlinkCommand d env p data) := by
  refine Drv.Keeps.state.bind fun s => Drv.Keeps.bind (Drv.Keeps.change fun s' => ?_) fun _ =>
    Drv.Keeps.pure _
  unfold EspstlinkState.byteAt
  rw [EspstlinkState.command_target]
  split
  · exact h s'.target
  · rfl

theorem espstlinkSwimRead_byteAt (addr size : Nat) :
    Drv.Keeps (EspstlinkState.byteAt x) ((espLocking d env).swimRead addr size) := by
  refine Drv.Keeps.bind (espstlinkCommand_byteAt fun t => ?_) fun _ => Drv.Keeps.pure _
  have hcmd : (espstlinkCmd 1 size addr).getD 0 0 = 1 := rfl
  unfold espstlinkReceive Target.afterRead
  rw [hcmd, if_neg (by decide), if_pos rfl]
  split <;> rfl

/-- A byte written elsewhere, or a block, does not show. -/
theorem espstlinkSwimWrite_byteAt {buffer : List Byte} {addr size : Nat} (ha : addr < 16777216)
    (hsize : size < 256) (hlen : buffer.length = size) (hx : x < addr ∨ addr + size ≤ x) :
    Drv.Keeps (EspstlinkState.byteAt x) ((espLocking d env).swimWrite buffer addr size) := by
  intro s
  rw [espLocking_swimWrite_run ha hsize hlen]
  unfold EspstlinkState.byteAt
  rw [EspstlinkState.command_target]
  split
  · exact Target.heldBack_mem_of_eq (Target.write_off (by omega))
  · rfl

section Data

variable (hd : d.Sound) (hx : ¬d.IsControl x)

include hd hx

theorem espstlinkWriteByte_byteAt {a : Nat} (ha : d.IsControl a) (v : Byte) :
    Drv.Keeps (EspstlinkState.byteAt x) ((espLocking d env).writeByte v a) := by
  have hlt := hd.control_lt ha
  have hne : x ≠ a := fun e => hx (e ▸ ha)
  exact espstlinkSwimWrite_byteAt (by omega) (by decide) rfl (by omega)

theorem byteAt_frame : EspSwim.Frame d (espLocking d env) (EspstlinkState.byteAt x) where
  read := espstlinkSwimRead_byteAt
  control := fun v _ ha => espstlinkWriteByte_byteAt hd hx ha v

/-- An option byte that is written changes no other data byte. -/
theorem espstlinkOptByte_byteAt (buffer : Nat → Byte) {start j : Nat}
    (hlim : start + j < 16777216) (hne : x ≠ start + j) :
    Drv.Keeps (EspstlinkState.byteAt x) ((espLocking d env).optByte d buffer start j) := by
  have haddr : u32 (start + j) = start + j := u32_of_lt (by omega)
  unfold EspSwim.optByte EspSwim.writeByte
  rw [haddr]
  refine Drv.Keeps.bind (espstlinkSwimWrite_byteAt hlim (by decide) rfl (by omega)) fun _ => ?_
  exact tryEop_keeps ((byteAt_frame hd hx).readByte _) _ 5

/-- A round changes no data byte outside its block. -/
theorem espstlinkWriteBlock_byteAt (memtype : Memtype) (buffer current : Nat → Byte)
    {start i : Nat} (hlim : start + i < 16777216)
    (hout : x < start + i ∨ start + i + d.flashBlockSize ≤ x) :
    Drv.Keeps (EspstlinkState.byteAt x)
      ((espLocking d env).writeBlock d memtype buffer current start i) := by
  have hsize : d.flashBlockSize < 256 := by
    rcases hd.block_size with hb | hb <;> rw [hb] <;> decide
  have hframe := @byteAt_frame d env x hd hx
  refine EspSwim.writeBlock_keeps hframe.read (hframe.enterBlock memtype current i) ?_
  rw [u32_of_lt (by omega)]
  exact espstlinkSwimWrite_byteAt hlim hsize (Image.slice_length _ _ _) hout

end Data

end Bytes

/-! ## What the pre-read leaves -/

section Received

variable {d : Stm8Device} {env : EspstlinkEnv}

/-- A chunk in `buffer`. -/
theorem chunk_at (t : Target) (buffer : Nat → Byte) {start i size k : Nat} (hlow : i ≤ k)
    (hhigh : k < i + size) (hx : ¬d.IsControl (start + k)) :
    Image.storeAll buffer (Image.block i (t.read d env.hw (start + i) size)) k =
      t.mem (start + k) := by
  obtain ⟨r, rfl⟩ : ∃ r, k = i + r := ⟨k - i, by omega⟩
  have hat := Image.storeAll_block_slice_at buffer (t.peek d env.hw) i (start + i) size r (by omega)
  rw [Nat.add_assoc] at hat
  exact hat.trans (Target.Holds.peek (fun _ _ => rfl) env.hw hx)

/-- A loop that ends at `n` has put the data of the target at the indices before `n` and left
the others, whichever command has failed. -/
theorem espstlinkReadLoop_received {start length fuel i n : Nat} {buffer buffer' : Nat → Byte}
    {s t : EspstlinkState} (hi : i ≤ length)
    (hrun : (espLocking d env).readLoop start length fuel i buffer s = (.ok (n, buffer'), t)) :
    (i ≤ n ∧ n ≤ length) ∧ ∀ k, start + k < 16777216 → ¬d.IsControl (start + k) →
      buffer' k = if i ≤ k ∧ k < n then s.target.mem (start + k) else buffer k := by
  induction fuel generalizing s i buffer with
  | zero =>
    cases hrun
    exact ⟨⟨Nat.le_refl _, hi⟩, fun k _ _ => by rw [if_neg (by omega)]⟩
  | succ fuel ih =>
    unfold EspSwim.readLoop at hrun
    by_cases hlt : i < length
    · by_cases hbig : length - i < 2147483648
      · rw [if_pos hlt, if_pos hbig] at hrun
        generalize hsize : (if length - i > 255 then 255 else length - i) = size at hrun
        have hbound : size ≤ length - i ∧ size < 256 := by
          rw [← hsize]
          split <;> omega
        rcases Drv.bind_eq_ok.mp hrun with ⟨bytes, u, hread, hrest⟩
        cases bytes with
        | none =>
          -- a command that fails ends the loop
          cases hrest
          exact ⟨⟨Nat.le_refl _, hi⟩, fun k _ _ => by rw [if_neg (by omega)]⟩
        | some bs =>
          have hlen := espstlinkSwimRead_length hbound.2 hread
          obtain ⟨⟨hlow, hhigh⟩, hrec⟩ := ih (by omega) hrest
          refine ⟨⟨by omega, hhigh⟩, fun k hk hx => ?_⟩
          have hkeep := (@espstlinkSwimRead_byteAt d env (start + k) _ _).of_run hread
          rw [hrec k hk hx]
          by_cases hchunk : i ≤ k ∧ k < i + size
          · -- the byte is in the chunk
            rw [u32_of_lt (by omega)] at hread
            rw [if_neg (by omega), if_pos (by omega),
              espstlinkSwimRead_some (by omega) hbound.2 hread]
            exact chunk_at s.target buffer hchunk.1 hchunk.2 hx
          · have hoff : Image.storeAll buffer (Image.block i bs) k = buffer k :=
              Image.storeAll_block_off _ _ _ _ (by omega)
            by_cases hlater : i + size ≤ k ∧ k < n
            · rw [if_pos hlater, if_pos (by omega)]
              exact hkeep
            · rw [if_neg hlater, if_neg (by omega), hoff]
      · rw [if_pos hlt, if_neg hbig] at hrun
        cases hrun
    · rw [if_neg hlt] at hrun
      cases hrun
      exact ⟨⟨Nat.le_refl _, hi⟩, fun k _ _ => by rw [if_neg (by omega)]⟩

/-- What a range read leaves in `buffer`: the data of the target up to the value that it
returns, and behind it what was there. -/
theorem espstlinkSwimReadRange_received {start length : Nat} {buffer current : Nat → Byte}
    {received : Int} {s t : EspstlinkState} (hlength : length < 2147483648)
    (hrun : (espLocking d env).readRange buffer start length s = (.ok (received, current), t))
    {k : Nat} (hk : start + k < 16777216) (hx : ¬d.IsControl (start + k)) :
    current k = if (k : Int) < received then s.target.mem (start + k) else buffer k := by
  unfold EspSwim.readRange at hrun
  rcases Drv.bind_eq_ok.mp hrun with ⟨⟨n, buffer'⟩, u, hloop, hend⟩
  cases hend
  obtain ⟨⟨-, hn⟩, hrec⟩ := espstlinkReadLoop_received (Nat.zero_le length) hloop
  rw [hrec k hk hx, toInt32_of_lt (by omega)]
  by_cases hkn : k < n
  · rw [if_pos ⟨Nat.zero_le k, hkn⟩, if_pos (Int.ofNat_lt.mpr hkn)]
  · rw [if_neg fun h => hkn h.2, if_neg fun h => hkn (Int.ofNat_lt.mp h)]

end Received

/-! ## What a round does -/

section Round

variable {d : Stm8Device} {env : EspstlinkEnv} {memtype : Memtype} {buffer current : Nat → Byte}

/-- Selecting the mode leaves the locks. -/
theorem espstlinkEnterBlock_locks (hd : d.Sound) (i : Nat) :
    Drv.Keeps (fun s => s.target.locks) ((espLocking d env).enterBlock d memtype current i) := by
  have hwrite {a : Nat} (ha : d.IsControl a) (hoff : ¬d.IsLock a) (v : Byte) :
      Drv.Keeps (fun s => s.target.locks) ((espLocking d env).writeByte v a) :=
    espLocking_swimWrite_locks (espstlinkWriteByte_locks hd ha hoff v)
  rcases hd.lock_ne with ⟨hcr2, hncr2, -⟩
  exact EspSwim.enterBlock_keeps (fun h v => hwrite (d.control_flashNcr2 h) hncr2 v)
    (fun v => hwrite d.control_flashCr2 hcr2 v) memtype current i

end Round

/-! ## Completed runs -/

section Runs

variable {d : Stm8Device} {env : EspstlinkEnv} {memtype : Memtype} {buffer : Nat → Byte}
  {start length : Nat} {s t : EspstlinkState} {v : Int}

/-- A round comes upon the pre-read of the target as the run has found it. -/
theorem EspstlinkBlockRound.before (hd : d.Sound) (hend : start + length ≤ 16777216) {j k : Nat}
    {received : Int} {current : Nat → Byte} {u : EspstlinkState}
    (h : EspstlinkBlockRound d env buffer start length memtype s j received current u)
    (hlow : j * d.flashBlockSize ≤ k) (hk : k < length) (hx : ¬d.IsControl (start + k)) :
    (current k = if (k : Int) < received then s.target.mem (start + k)
      else env.stackCurrent k) ∧ u.target.mem (start + k) = s.target.mem (start + k) := by
  rcases h with ⟨t₁, hbefore, hpre⟩
  rcases Drv.bind_eq_ok.mp hbefore with ⟨ok, s₁, hprepare, hread⟩
  have hframe := @byteAt_frame d env (start + k) hd hx
  have hprepared := (hframe.prepareForFlash hd memtype).of_run hprepare
  have hpreread := (hframe.readRange env.stackCurrent start (roundedSize d length)).of_run hread
  -- the rounds before are about other blocks
  have hround : u.byteAt (start + k) = t₁.byteAt (start + k) := by
    refine Drv.Keeps.of_run (Drv.Keeps.loopFrom _ fun i _ hi => ?_) hpre
    have hbehind : (i + 1) * d.flashBlockSize ≤ j * d.flashBlockSize :=
      Nat.mul_le_mul_right _ (by omega)
    rw [Nat.add_mul, Nat.one_mul] at hbehind
    exact espstlinkWriteBlock_byteAt hd hx memtype _ current (by omega) (Or.inr (by omega))
  have hsize : roundedSize d length < 2147483648 := by
    have := rounds_lt hd length
    rw [roundedSize_eq hd (by omega)]
    omega
  constructor
  · rw [espstlinkSwimReadRange_received hsize hread (by omega) hx]
    split
    · exact hprepared
    · rfl
  · exact hround.trans (hpreread.trans hprepared)

/-- The round of an option byte comes upon the byte as the run has found it. -/
theorem EspstlinkByteRound.before (hd : d.Sound) (hend : start + length ≤ 16777216) {j : Nat}
    {u : EspstlinkState} (h : EspstlinkByteRound d env buffer start s j u) (hj : j < length)
    (hx : ¬d.IsControl (start + j)) :
    u.target.mem (start + j) = s.target.mem (start + j) := by
  rcases h with ⟨t₁, hbefore, hpre⟩
  have hframe := @byteAt_frame d env (start + j) hd hx
  have hprepared := ((hframe.prepareForFlash hd .opt).bind fun _ =>
    (hframe.control 0x80 _ d.control_flashCr2).bind fun _ => hframe.writeNcr2 0x7F).of_run hbefore
  have hround : u.byteAt (start + j) = t₁.byteAt (start + j) := by
    refine Drv.Keeps.of_run (Drv.Keeps.forFrom _ fun i _ hi => ?_) hpre
    exact espstlinkOptByte_byteAt hd hx buffer (by omega) (by omega)
  exact hround.trans hprepared

end Runs

/-! ## The locks that the rounds find -/

section Unlocked

variable {d : Stm8Device} {env : EspstlinkEnv} {memtype : Memtype} {buffer : Nat → Byte}
  {start length : Nat}

/-- Of what goes to a control register nothing is held back. -/
theorem espLocking_writeByte (hd : d ∈ stm8Devices) {a : Nat} (ha : d.IsControl a) (v : Byte) :
    (espLocking d env).writeByte v a = (espSwim d env).writeByte v a := by
  have hsound := stm8Devices_sound d hd
  have hlt := hsound.control_lt ha
  funext s
  rw [espLocking_writeByte_run hsound.one_lt (by omega),
    espstlinkWriteByte_run hsound.one_lt (by omega)]
  rw [Target.heldBack_of_takes (d.takes_control hd ha _ _) fun x hx => by
    rw [Target.poke_mem, Function.update_of_ne hx]]

theorem espLocking_prepareForFlash (hd : d ∈ stm8Devices) :
    (espLocking d env).prepareForFlash d memtype = (espSwim d env).prepareForFlash d memtype := by
  have hcsr : d.IsControl espstlinkDmCsr2 := by
    rw [show espstlinkDmCsr2 = d.regs.flashDmCsr2 from (stm8Devices_sound d hd).flashDmCsr2.symm]
    exact d.control_flashDmCsr2
  have hread (a : Nat) : (espLocking d env).readByte a = (espSwim d env).readByte a := rfl
  unfold EspSwim.prepareForFlash EspSwim.stall EspSwim.keys
  simp only [hread, espLocking_writeByte hd hcsr, espLocking_writeByte hd d.control_flashPukr,
    espLocking_writeByte hd d.control_flashDukr]

theorem espLocking_swimRead_locks (addr size : Nat) :
    Drv.Keeps (fun s => s.target.locks) ((espLocking d env).swimRead addr size) :=
  espstlinkSwimRead_locks addr size

/-- A round whose block lies off the lock registers. -/
theorem espLocking_writeBlock_locks (hd : d.Sound) (current : Nat → Byte) {i : Nat}
    (hlim : start + i < 16777216) (hoff : ∀ k < d.flashBlockSize, ¬d.IsLock (start + i + k)) :
    Drv.Keeps (fun s => s.target.locks)
      ((espLocking d env).writeBlock d memtype buffer current start i) := by
  have hsize : d.flashBlockSize < 256 := by
    rcases hd.block_size with hb | hb <;> rw [hb] <;> decide
  refine EspSwim.writeBlock_keeps espLocking_swimRead_locks (espstlinkEnterBlock_locks hd i) ?_
  rw [u32_of_lt (by omega)]
  exact espLocking_swimWrite_locks
    (espstlinkSwimWrite_locks hd hlim hsize (Image.slice_length _ _ _) hoff)

/-- The rounds over blocks off the lock registers leave the locks as the preparation has left them:
from a locked target everything is locked unless the unlock commands have all arrived. -/
theorem EspstlinkBlockRound.closed_iff (hd : d ∈ stm8Devices)
    (hstored : memtype = .flash ∨ memtype = .eeprom ∨ memtype = .opt)
    (hlim : start + blockRounds d length * d.flashBlockSize ≤ 2 ^ 24)
    (hoff : ∀ k < blockRounds d length * d.flashBlockSize, ¬d.IsLock (start + k))
    {s u : EspstlinkState} {j : Nat} (hj : j ≤ blockRounds d length) {received : Int}
    {current : Nat → Byte}
    (h : EspstlinkBlockRound d env buffer start length memtype s j received current u) :
    u.target.locks.Closed ↔ s.target.locks.Closed ∧ ¬env.KeysArrive s.commands := by
  have hsound := stm8Devices_sound d hd
  have hpos := hsound.one_lt
  rcases h with ⟨t, hbefore, hrounds⟩
  rcases Drv.bind_eq_ok.mp hbefore with ⟨ok, s₁, hprepare, hread⟩
  rw [espLocking_prepareForFlash hd] at hprepare
  have hprepared := @espstlinkPrepareForFlash_closed d env memtype hsound hstored s
  rw [hprepare] at hprepared
  have hpreread := (EspSwim.readRange_keeps (@espLocking_swimRead_locks d env) env.stackCurrent
    start (roundedSize d length)).of_run hread
  have hround : u.target.locks = t.target.locks := by
    refine Drv.Keeps.of_run (f := fun s => s.target.locks) (Drv.Keeps.loopFrom _ fun i _ hi => ?_)
      hrounds
    have hin := round_in_range (show i < blockRounds d length by omega)
    refine espLocking_writeBlock_locks hsound current (by omega) fun k hk => ?_
    rw [Nat.add_assoc]
    exact hoff _ (by omega)
  have hsame : u.target.locks = s₁.target.locks := hround.trans hpreread
  rw [hsame]
  exact hprepared

end Unlocked

/-! ## One command that fails -/

end Stm8Flash
