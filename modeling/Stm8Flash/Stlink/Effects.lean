import Stm8Flash.Effects
import Stm8Flash.Stlink.Range

/-! # What ST-Link V1 does to the target, however a run ends

`stlink_swim_read_range` writes to the two registers of a session and reads, in any environment;
`stlink_swim_write_range` writes to registers and to the blocks of its range.
-/

namespace Stm8Flash

open Hex Word

section Effects

variable {d : Stm8Device} {env : StlinkEnv} {I : Target → Prop}

/-! ## Commands -/

/-- A program that leaves the target alone. -/
theorem effect_of_seen {α : Type} {prog : Stlink α} (h : Drv.Keeps StlinkState.seen prog) :
    Drv.Preserves (fun s => I s.target) prog := (h.comp Prod.fst).preserves I

theorem seenOnly_effect :
    SeenOnly (fun s => I s.target) (fun _ s => I s.target) :=
  fun _ _ h => (effect_of_seen h).triple

/-- A command that stops before it has been sent has not reached the target. -/
theorem stlinkCmd_effect {transferLength : Nat} {flags : Byte} {args data : List Byte}
    (h : ∀ s : StlinkState, I s.target → I (stlinkReceive d env.hw
      (packUsbCbw ⟨transferLength, flags, args.length, stlinkCb args⟩) [] s).target) :
    Drv.Preserves (fun s => I s.target) (stlinkCmd d env transferLength flags args data) := by
  refine Drv.Preserves.bind ?_ fun _ => (Drv.Preserves.change h).bind fun _ => ?_
  · exact (effect_of_seen stlinkTransfer_seen).bind fun _ => Drv.Preserves.change fun _ ht => ht
  · exact (effect_of_seen (stlinkDataPhase_seen _ _)).bind fun _ =>
      (effect_of_seen stlinkReadCsw_seen).bind fun _ => Drv.Preserves.pure _

theorem stlinkSwimWriteByte_effect (hd : d.Sound) {a : Nat} {v : Byte}
    (h : ∀ t, I t → I (t.poke d (a % 65536) v)) :
    Drv.Preserves (fun s => I s.target) (stlinkSwimWriteByte d env v a) := by
  have htry : Drv.Preserves (fun s => I s.target) (stlinkTryByte d env v a) := by
    refine Drv.Preserves.bind (stlinkCmd_effect fun s hs => ?_) fun _ => ?_
    · rw [stlinkReceive_byte, StlinkState.setTarget_target, Target.write_one hd.one_lt]
      exact h _ hs
    · refine Drv.Preserves.state.bind fun s => ?_
      exact (effect_of_seen (stlinkCmd_seen (plain_byteStatus v a) _ _ _)).bind fun _ =>
        Drv.Preserves.pure _
  -- the tries repeat the write
  have hloop (tries : Nat) :
      Drv.Preserves (fun s => I s.target) (stlinkWriteByteLoop d env v a tries) := by
    induction tries with
    | zero => exact htry
    | succ tries ih =>
      refine htry.bind fun result => Drv.Preserves.ite (fun _ => ?_) fun _ => Drv.Preserves.pure _
      exact Drv.Preserves.ite (fun _ => ih) fun _ => Drv.Preserves.pure _
  exact hloop 4

theorem stlinkSwimWriteByte_reg_effect (hd : d.Sound) {R : Nat → Prop} (hpoke : PokeClosed d R I)
    {a : Nat} (ha : d.IsControl a) (hR : R a) (v : Byte) :
    Drv.Preserves (fun s => I s.target) (stlinkSwimWriteByte d env v a) := by
  have hlt := hd.control_lt ha
  refine stlinkSwimWriteByte_effect hd fun t ht => ?_
  rw [Nat.mod_eq_of_lt (show a < 65536 by omega)]
  exact hpoke t a v hR ht

/-! ## Sessions -/

theorem stlinkInitSession_effect (hd : d.Sound) (hses : PokeClosed d d.SessionReg I) :
    Drv.Preserves (fun s => I s.target) (stlinkInitSession d env) :=
  fun _ hs => (stlinkInitSession_keeps seenOnly_effect fun v =>
    (stlinkSwimWriteByte_reg_effect hd hses d.control_swimCsr (Or.inr rfl) v).triple).always hs

theorem stlinkFinishSession_effect (hd : d.Sound) (hses : PokeClosed d d.SessionReg I) :
    Drv.Preserves (fun s => I s.target) (stlinkFinishSession d env) :=
  fun _ hs => (stlinkFinishSession_keeps seenOnly_effect fun v =>
    (stlinkSwimWriteByte_reg_effect hd hses d.control_swimCsr (Or.inr rfl) v).triple).always hs

/-! ## Reading and reset -/

theorem stlinkReadChunk_effect (hread : ReadClosed d I) (start length i : Nat)
    (buffer : Nat → Byte) :
    Drv.Preserves (fun s => I s.target) (stlinkReadChunk d env start length i buffer) := by
  have hfetch (n : Nat) : Plain (stlinkReadArgs 0x0c (u32 (start + i)) n) :=
    ⟨show (0x0c : Byte) ≠ 0x0a by decide, show (0x0c : Byte) ≠ 0x0b by decide⟩
  refine Drv.Preserves.ite (fun _ => ?_) fun _ => Drv.Preserves.stop _
  refine Drv.Preserves.bind (stlinkCmd_effect fun s hs => ?_) fun _ => ?_
  · -- the packet reads memory
    unfold stlinkReceive isSwimRead
    rw [if_neg (by rw [isSwimCmd_cbw]; exact Bool.false_ne_true),
      if_pos (by rw [isSwimCmd_cbw]; rfl)]
    exact hread _ _ _ hs
  refine (effect_of_seen stlinkSwimWait_seen).bind fun _ => ?_
  refine Drv.Preserves.state.bind fun s => ?_
  exact (effect_of_seen (stlinkCmd_seen (hfetch _) _ _ _)).bind fun _ => Drv.Preserves.pure _

theorem stlinkSwimReadRange_effect (hd : d.Sound) (hread : ReadClosed d I)
    (hses : PokeClosed d d.SessionReg I) (buffer : Nat → Byte) (start length : Nat) :
    Drv.Preserves (fun s => I s.target) (stlinkSwimReadRange d env buffer start length) := by
  refine (stlinkInitSession_effect hd hses).bind fun _ => ?_
  refine Drv.Preserves.bind
    (stlinkSwimWriteByte_reg_effect hd hses d.control_clkCkdivr (Or.inl rfl) 0x00) fun _ => ?_
  refine Drv.Preserves.bind ?_ fun buf => ?_
  · exact Drv.Preserves.foldFrom _ (fun j buf _ _ => stlinkReadChunk_effect hread _ _ _ _) _
  · exact (stlinkFinishSession_effect hd hses).bind fun _ => Drv.Preserves.pure _

theorem stlinkSwimSrst_effect : Drv.Preserves (fun s => I s.target) (stlinkSwimSrst d env) := by
  refine (effect_of_seen (stlinkCmd_seen ⟨by decide, by decide⟩ _ _ _)).bind fun _ => ?_
  refine Drv.Preserves.bind (Drv.Preserves.state.bind fun _ => ?_) fun _ => Drv.Preserves.pure _
  exact effect_of_seen (stlinkStatusReply_seen _)

/-! ## Writing -/

theorem stlinkUnlock_effect (hd : d.Sound) (hpoke : PokeClosed d d.IsControl I)
    (memtype : Memtype) : Drv.Preserves (fun s => I s.target) (stlinkUnlock d env memtype) := by
  have hreg {a : Nat} (ha : d.IsControl a) (v : Byte) :
      Drv.Preserves (fun s => I s.target) (stlinkSwimWriteByte d env v a) :=
    stlinkSwimWriteByte_reg_effect hd hpoke ha ha v
  refine (hreg d.control_flashIapsr _).when.bind fun _ => ?_
  refine Drv.Preserves.bind ?_ fun _ => ?_
  · exact ((hreg d.control_flashPukr _).bind fun _ => hreg d.control_flashPukr _).when
  refine Drv.Preserves.bind ?_ fun _ => (hreg d.control_flashIapsr _).when
  exact ((hreg d.control_flashDukr _).bind fun _ => hreg d.control_flashDukr _).when

theorem stlinkEnterBlock_effect (hd : d.Sound) (hpoke : PokeClosed d d.IsControl I)
    (memtype : Memtype) :
    Drv.Preserves (fun s => I s.target) (stlinkEnterBlock d env memtype) := by
  have hcr2 := d.control_flashCr2
  refine Drv.Preserves.when ((stlinkSwimWriteByte_reg_effect hd hpoke hcr2 hcr2 _).bind fun _ => ?_)
  refine Drv.Preserves.ite (fun h => ?_) fun _ => Drv.Preserves.pure ()
  have hncr2 := d.control_flashNcr2 h
  exact (stlinkSwimWriteByte_reg_effect hd hpoke hncr2 hncr2 _).bind fun _ => Drv.Preserves.pure _

theorem stlinkSwimWriteBlock_effect {data : List Byte} {start length : Nat}
    (hlen : data.length = length) (hlt : length < 65536)
    (h : ∀ t, I t → I (t.write d (start % 65536) data)) :
    Drv.Preserves (fun s => I s.target) (stlinkSwimWriteBlock d env data start length 0) := by
  refine Drv.Preserves.ite (fun hasserts => ?_) fun _ => Drv.Preserves.stop _
  refine Drv.Preserves.bind ?_ fun _ => ?_
  · exact (effect_of_seen stlinkTransfer_seen).bind fun _ => Drv.Preserves.change fun _ ht => ht
  refine (effect_of_seen stlinkTransfer_seen).bind fun _ => ?_
  refine Drv.Preserves.bind (Drv.Preserves.change fun s hs => ?_) fun _ => ?_
  · rw [stlinkReceive_block hlen (by omega) hlt, StlinkState.setTarget_target]
    exact h _ hs
  refine (effect_of_seen stlinkReadCsw_seen).bind fun csw => ?_
  exact Drv.Preserves.ite (fun _ => effect_of_seen stlinkSwimWait_seen)
    fun _ => Drv.Preserves.stop _

/-- What the registers and the blocks of the range keep, `stlink_swim_write_range` keeps. -/
theorem stlinkSwimWriteRange_effect (hd : d.Sound) (hpoke : PokeClosed d d.IsControl I)
    {start length : Nat}
    (hwrite : WriteClosed d start (blockRounds d length * d.flashBlockSize) I)
    (hlim : start + blockRounds d length * d.flashBlockSize ≤ 65536) (memtype : Memtype)
    (buffer : Nat → Byte) :
    Drv.Preserves (fun s => I s.target)
      (stlinkSwimWriteRange d env buffer start length memtype) := by
  have hses : PokeClosed d d.SessionReg I := hpoke.mono fun a ha => ha.control
  have hckdivr := d.control_clkCkdivr
  have hiapsr := d.control_flashIapsr
  refine (stlinkInitSession_effect hd hses).bind fun _ => ?_
  refine (stlinkSwimWriteByte_reg_effect hd hpoke hckdivr hckdivr _).bind fun _ => ?_
  refine (stlinkUnlock_effect hd hpoke memtype).bind fun _ => ?_
  refine Drv.Preserves.bind (Drv.Preserves.forFrom _ fun j _ hj => ?_) fun _ => ?_
  · have hin := round_in_range (show j < blockRounds d length by omega)
    have hblock := hd.one_lt
    have haddr : u32 (start + j * d.flashBlockSize) % 65536 = start + j * d.flashBlockSize := by
      rw [u32_of_lt (by omega)]
      exact Nat.mod_eq_of_lt (by omega)
    refine Drv.Preserves.ite (fun _ => ?_) fun _ => Drv.Preserves.stop _
    refine (stlinkEnterBlock_effect hd hpoke memtype).bind fun _ => ?_
    rw [stlinkBlock_eq buffer (round_start_lt hd (by omega))]
    -- printing an error changes nothing
    refine Drv.Preserves.bind (stlinkSwimWriteBlock_effect (by simp) hd.block_lt fun t ht => ?_)
      fun result => Drv.Preserves.when
        (Drv.Preserves.change (g := fun s : StlinkState => s.writeError) fun _ ht => ht)
    rw [haddr]
    exact hwrite t _ _ (by omega) (by rw [Image.slice_length]; omega) ht
  refine (stlinkSwimWriteByte_reg_effect hd hpoke hiapsr hiapsr _).when.bind fun _ => ?_
  exact (stlinkFinishSession_effect hd hses).bind fun _ => Drv.Preserves.pure _

theorem stlinkWriteNegative_effect (hd : d.Sound) (hpoke : PokeClosed d d.IsControl I)
    (memtype : Memtype) :
    Drv.Preserves (fun s => I s.target) (stlinkWriteNegative d env memtype) := by
  have hckdivr := d.control_clkCkdivr
  refine (stlinkInitSession_effect hd (hpoke.mono fun a ha => ha.control)).bind fun _ => ?_
  refine (stlinkSwimWriteByte_reg_effect hd hpoke hckdivr hckdivr _).bind fun _ => ?_
  exact stlinkUnlock_effect hd hpoke memtype

/-! ## Where nothing fails -/

theorem stlinkSwimSrst_returns (hok : env.NoFailure) : Drv.Returns (stlinkSwimSrst d env) :=
  (stlinkCmd_returns hok _ _ _ _).bind fun _ =>
    (Drv.Returns.state.bind fun _ => stlinkStatusReply_returns hok _).bind fun _ =>
      Drv.Returns.pure _

end Effects

end Stm8Flash
