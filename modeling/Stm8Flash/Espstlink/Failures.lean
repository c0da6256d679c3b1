import Stm8Flash.Espstlink.Model

/-! # The ESP back end, when commands fail

Of the commands of a run, whatever the environment answers, only the block writes matter to
the value of `espstlink_swim_write_range`: it returns less than the length exactly when one of
them has failed (`espstlinkSwimWriteRange_failures`).
-/

namespace Stm8Flash

open Hex Word

section Keeps

variable {d : Stm8Device} {env : EspstlinkEnv}

/-- A command that is not a block write does not change the failed block writes. -/
theorem espstlinkCommand_keeps {p data : List Byte} (h : isEspBlockWrite (p ++ data) = false) :
    Drv.Keeps EspstlinkState.failedBlocks (espstlinkCommand d env p data) := by
  refine Drv.Keeps.state.bind fun s => (Drv.Keeps.change fun s' => ?_).bind fun _ =>
    Drv.Keeps.pure _
  unfold EspstlinkState.failedBlocks
  rw [EspstlinkState.command_sent, List.filter_append, List.filter_singleton, h, Bool.false_and]
  exact List.append_nil _

theorem espstlinkWriteByte_keeps (byte : Byte) (addr : Nat) :
    Drv.Keeps EspstlinkState.failedBlocks ((espSwim d env).writeByte byte addr) :=
  (espstlinkCommand_keeps rfl).bind fun _ => Drv.Keeps.pure _

theorem failedBlocks_frame : EspSwim.Frame d (espSwim d env) EspstlinkState.failedBlocks where
  read := fun _ _ => (espstlinkCommand_keeps rfl).bind fun _ => Drv.Keeps.pure _
  control := fun v a _ => espstlinkWriteByte_keeps v a

theorem espstlinkWriteOpt_keeps (buffer : Nat → Byte) (start length : Nat) :
    Drv.Keeps EspstlinkState.failedBlocks ((espSwim d env).writeOpt d buffer start length) := by
  apply (espstlinkWriteByte_keeps _ _).bind
  intro _
  apply (failedBlocks_frame.writeNcr2 _).bind
  intro _
  refine Drv.Keeps.forFrom length fun j _ _ => ?_
  exact (espstlinkWriteByte_keeps _ _).bind fun _ =>
    tryEop_keeps (failedBlocks_frame.readByte _) _ 5

theorem espstlinkSrst_keeps (hd : d.Sound) :
    Drv.Keeps EspstlinkState.failedBlocks (espstlinkSrst d env) :=
  (espstlinkCommand_keeps rfl).bind fun _ => (failedBlocks_frame.stall hd false).bind fun _ =>
    Drv.Keeps.pure _

end Keeps

/-! ## Block writes -/

section Blocks

variable {d : Stm8Device} {env : EspstlinkEnv} {failed : List (List Byte × Bool)}

/-- The failed block writes are still `failed`. -/
def NoneFailed (failed : List (List Byte × Bool)) (s : EspstlinkState) : Prop :=
  s.failedBlocks = failed

/-- A block write returns whether it failed, and then it is recorded. -/
theorem espstlinkSwimWrite_failures (buffer : List Byte) (addr : Nat) (hd : d.Sound) :
    Drv.Triple (NoneFailed failed) ((espSwim d env).swimWrite buffer addr d.flashBlockSize)
      (fun ok s => if ok then NoneFailed failed s else ¬NoneFailed failed s) (fun _ _ => True) := by
  intro s hs
  -- more than one byte: the command is a block write
  have hblock : isEspBlockWrite (espstlinkCmd 2 d.flashBlockSize addr ++
      buffer.take (espstlinkSize (espstlinkCmd 2 d.flashBlockSize addr))) = true := by
    show ((2 : Byte) == 2 && UInt8.ofNat d.flashBlockSize != 1) = true
    rcases hd.block_size with hb | hb <;> rw [hb] <;> decide
  rw [espSwim_swimWrite]
  unfold espstlinkSwimWrite espstlinkCommand NoneFailed EspstlinkState.failedBlocks at *
  rw [Drv.bind_run, Drv.state_bind_run, Drv.change_bind_run, Drv.pure_run]
  simp only [Drv.pure_run, EspstlinkState.command_sent, List.filter_append, hs,
    List.filter_singleton, hblock]
  cases env.answered s.commands with
  | true => simp
  | false => simp

theorem espstlinkWriteBlock_failures (hd : d.Sound) (memtype : Memtype)
    (buffer current : Nat → Byte) (start i : Nat) :
    Drv.Triple (NoneFailed failed) ((espSwim d env).writeBlock d memtype buffer current start i)
      (Drv.LeftOr (fun v s => v = i ∧ ¬NoneFailed failed s) (NoneFailed failed))
      (fun _ _ => True) := by
  refine Drv.Triple.ite (fun _ => Drv.Triple.pure fun _ hs => hs) ?_
  intro _
  refine ((failedBlocks_frame.enterBlock _ _ _).partial_triple (· = failed)).bind ?_
  intro _
  refine (espstlinkSwimWrite_failures _ _ hd).bind ?_
  intro ok
  cases ok with
  | true =>
    refine Drv.Triple.bind (Q := fun _ => NoneFailed failed)
      ((failedBlocks_frame.waitBlock memtype).partial_triple (· = failed)) fun _ => ?_
    exact Drv.Triple.pure fun _ hs => hs
  -- a refused block ends the loop with its offset
  | false => exact Drv.Triple.pure fun _ hs => ⟨rfl, by simpa using hs⟩

/-- The offset that is returned early is that of a block of the range. -/
theorem espstlinkWriteBlocks_failures (hd : d.Sound) (memtype : Memtype) (buffer : Nat → Byte)
    (start length : Nat) :
    Drv.Triple (NoneFailed failed)
      ((espSwim d env).writeBlocks d env.stackCurrent memtype buffer start length)
      (Drv.LeftOr (fun v s => v < length ∧ ¬NoneFailed failed s) (NoneFailed failed))
      (fun _ _ => True) := by
  refine Drv.Triple.bind (Q := fun _ => NoneFailed failed)
    ((failedBlocks_frame.readRange _ _ _).partial_triple (· = failed)) fun r => ?_
  apply Drv.Triple.loopFrom (I := fun _ => NoneFailed failed) _
  intro j _ hj
  apply (espstlinkWriteBlock_failures hd memtype _ _ start _).post
  intro v s hs
  cases v with
  | none => exact hs
  | some v =>
    rcases hs with ⟨hv, hfailed⟩
    have hlt := @round_start_lt d hd length j (by omega)
    exact ⟨by omega, hfailed⟩

/-- The value of `espstlink_swim_write_range` is below `length` exactly when a block write has
failed. -/
theorem espstlinkSwimWriteRange_failures (hd : d.Sound) (memtype : Memtype) (buffer : Nat → Byte)
    {start length : Nat} (hlen : blockRounds d length * d.flashBlockSize < 2147483648) :
    Drv.Triple (NoneFailed failed)
      (espstlinkSwimWriteRange d env buffer start length memtype)
      (fun v s => (length : Int) ≤ v ↔ NoneFailed failed s) (fun _ _ => True) := by
  have hle := length_le_rounds hd length
  refine ((failedBlocks_frame.prepareForFlash hd memtype).partial_triple (· = failed)).bind
    fun _ => ?_
  refine Drv.Triple.ite (fun _ => ?_) fun _ => ?_
  · refine ((espstlinkWriteOpt_keeps _ _ _).partial_triple (· = failed)).bind fun _ => ?_
    refine ((failedBlocks_frame.lock _).partial_triple (· = failed)).bind fun _ => ?_
    refine Drv.Triple.pure fun s hs => ?_
    rw [toInt32_of_lt (by omega)]
    exact iff_of_true (Int.le_refl _) hs
  · refine (espstlinkWriteBlocks_failures hd memtype _ _ _).bind fun r => ?_
    cases r with
    -- the function returns at once, and does not lock
    | some i =>
      refine Drv.Triple.pure fun s hs => ?_
      rcases hs with ⟨hi, hfailed⟩
      rw [toInt32_of_lt (by omega)]
      exact iff_of_false (by omega) hfailed
    | none =>
      refine Drv.Triple.bind (Q := fun _ => NoneFailed failed)
        ((failedBlocks_frame.lock memtype).partial_triple (· = failed)) fun _ => ?_
      refine Drv.Triple.pure fun s hs => ?_
      rw [toInt32_of_lt (by omega)]
      exact iff_of_true (by omega) hs

end Blocks

end Stm8Flash
