import Stm8Flash.Effects
import Stm8Flash.Espstlink.Interface
import Stm8Flash.Espstlink.Range

/-! # What the ESP programmer does to the target, however a run ends

A command reaches the target or not, whatever becomes of its answer and whatever comes back instead
(`EspLib.Obeys`). Over such a library `espstlink_pgm_open` writes to `SWIM_CSR`,
`espstlink_swim_read_range` only sends commands that read, and `espstlink_swim_write_range` writes
to registers and to its range.
-/

namespace Stm8Flash

open Hex Word

namespace EspLib

variable {σ : Type}

/-- The functions of the library do to the target what their command does, or nothing. -/
structure Obeys (lib : EspLib σ) (d : Stm8Device) (target : σ → Target) : Prop where
  fetchVersion : ∀ I : Target → Prop, Drv.Preserves (fun s => I (target s)) lib.fetchVersion
  reset : ∀ (I : Target → Prop) (input enable : Bool),
    Drv.Preserves (fun s => I (target s)) (lib.reset input enable)
  swimEntry : ∀ I : Target → Prop, Drv.Preserves (fun s => I (target s)) lib.swimEntry
  swimSrst : ∀ I : Target → Prop, Drv.Preserves (fun s => I (target s)) lib.swimSrst
  swimRead : ∀ (I : Target → Prop) (addr size : Nat), ReadClosed d I →
    Drv.Preserves (fun s => I (target s)) (lib.swimRead addr size)
  swimWrite : ∀ (I : Target → Prop) (buffer : List Byte) (addr size : Nat),
    (∀ t, I t → I (espstlinkReceive d (espstlinkCmd 2 size addr)
      (buffer.take (espstlinkSize (espstlinkCmd 2 size addr))) t)) →
    Drv.Preserves (fun s => I (target s)) (lib.swimWrite buffer addr size)

section Effects

variable {lib : EspLib σ} {d : Stm8Device} {target : σ → Target} (h : lib.Obeys d target)
  {I : Target → Prop}

include h

theorem Obeys.readByte (hread : ReadClosed d I) (a : Nat) :
    Drv.Preserves (fun s => I (target s)) (lib.readByte a) := by
  refine (h.swimRead I a 1 hread).bind fun bytes => ?_
  cases bytes with
  | none => exact Drv.Preserves.pure _
  | some bs => exact Drv.Preserves.pure _

theorem Obeys.writeByte (hd : d.Sound) {a : Nat} (ha : a < 16777216) {v : Byte}
    (hpoke : ∀ t, I t → I (t.poke d a v)) :
    Drv.Preserves (fun s => I (target s)) (lib.writeByte v a) := by
  refine h.swimWrite I _ _ _ fun t ht => ?_
  show I (t.write d (espstlinkAddr (espstlinkCmd 2 1 a)) _)
  rw [espstlinkAddr_cmd ha, espstlinkSize_cmd (show 1 < 256 by decide)]
  rw [show ([v].take 1).take 1 = [v] from rfl, Target.write_one hd.one_lt]
  exact hpoke t ht

theorem Obeys.writeReg (hd : d.Sound) {R : Nat → Prop} (hpoke : PokeClosed d R I)
    {a : Nat} (ha : d.IsControl a) (hR : R a) (v : Byte) :
    Drv.Preserves (fun s => I (target s)) (lib.writeByte v a) := by
  have hlt := hd.control_lt ha
  exact h.writeByte hd (by omega) fun t ht => hpoke t a v hR ht

/-! ## Opening, reading and reset -/

theorem Obeys.pgmOpen (hd : d.Sound) (hpoke : PokeClosed d d.SessionReg I) :
    Drv.Preserves (fun s => I (target s)) lib.pgmOpen := by
  have hreset (version : Int) (input enable : Bool) :
      Drv.Preserves (fun s => I (target s)) (lib.connect.resetPin version input enable) :=
    Drv.Preserves.ite (fun _ => h.reset I input enable) fun _ => Drv.Preserves.pure true
  refine (h.fetchVersion I).bind fun version => ?_
  cases version with
  | none => exact Drv.Preserves.pure _
  | some v =>
    refine (hreset v false true).bind fun _ =>
      Drv.Preserves.ite (fun _ => ?_) fun _ => Drv.Preserves.pure _
    refine (h.swimEntry I).bind fun _ =>
      Drv.Preserves.ite (fun _ => ?_) fun _ => Drv.Preserves.pure _
    refine (h.swimSrst I).bind fun _ =>
      Drv.Preserves.ite (fun _ => ?_) fun _ => Drv.Preserves.pure _
    refine (h.writeReg hd hpoke d.control_swimCsr (Or.inr rfl) _).bind fun _ => ?_
    refine (hreset v true false).bind fun _ => ?_
    exact Drv.Preserves.ite (fun _ => Drv.Preserves.pure _) fun _ => Drv.Preserves.pure _

theorem Obeys.readRange (hread : ReadClosed d I) (buffer : Nat → Byte) (start length : Nat) :
    Drv.Preserves (fun s => I (target s)) (lib.readRange buffer start length) := by
  have hloop : ∀ fuel i buffer,
      Drv.Preserves (fun s => I (target s)) (lib.readLoop start length fuel i buffer) := by
    intro fuel
    induction fuel with
    | zero => exact fun i buffer => Drv.Preserves.pure _
    | succ fuel ih =>
      intro i buffer
      refine Drv.Preserves.ite (fun _ => ?_) fun _ => Drv.Preserves.pure _
      refine Drv.Preserves.ite (fun _ => ?_) fun _ => Drv.Preserves.stop _
      refine (h.swimRead I _ _ hread).bind fun bytes => ?_
      cases bytes with
      | none => exact Drv.Preserves.pure _
      | some bs => exact ih _ _
  exact (hloop length 0 buffer).bind fun _ => Drv.Preserves.pure _

/-- The stall bit is in `DM_CSR2`. -/
theorem Obeys.stall (hd : d.Sound) (hread : ReadClosed d I)
    (hstall : PokeClosed d (· = d.regs.flashDmCsr2) I) (stall : Bool) :
    Drv.Preserves (fun s => I (target s)) (lib.stall stall) := by
  have hdm : espstlinkDmCsr2 = d.regs.flashDmCsr2 := hd.flashDmCsr2.symm
  refine (h.readByte hread _).bind fun csr => ?_
  refine Drv.Preserves.ite (fun _ => Drv.Preserves.pure _) fun _ => ?_
  rw [hdm]
  exact h.writeReg hd hstall d.control_flashDmCsr2 rfl _

theorem Obeys.srst (hd : d.Sound) (hread : ReadClosed d I)
    (hstall : PokeClosed d (· = d.regs.flashDmCsr2) I) :
    Drv.Preserves (fun s => I (target s)) lib.srst :=
  (h.swimSrst I).bind fun _ =>
    (h.stall hd hread hstall false).bind fun _ => Drv.Preserves.pure _

/-! ## Writing -/

theorem Obeys.writeNcr2 (hd : d.Sound) (hpoke : PokeClosed d d.IsControl I) (v : Byte) :
    Drv.Preserves (fun s => I (target s)) (lib.writeNcr2 d v) := by
  refine Drv.Preserves.ite (fun hreg => ?_) fun _ => Drv.Preserves.pure ()
  have hncr2 := d.control_flashNcr2 hreg
  exact (h.writeReg hd hpoke hncr2 hncr2 v).bind fun _ => Drv.Preserves.pure _

theorem Obeys.prepareForFlash (hd : d.Sound) (hread : ReadClosed d I)
    (hpoke : PokeClosed d d.IsControl I) (memtype : Memtype) :
    Drv.Preserves (fun s => I (target s)) (lib.prepareForFlash d memtype) := by
  have hstall : PokeClosed d (· = d.regs.flashDmCsr2) I :=
    hpoke.mono fun a ha => ha ▸ d.control_flashDmCsr2
  have hkeys {a : Nat} (ha : d.IsControl a) (first second : Byte) :
      Drv.Preserves (fun s => I (target s)) (lib.keys first second a) :=
    (h.writeReg hd hpoke ha ha first).bind fun _ => Drv.Preserves.ite
      (fun _ => h.writeReg hd hpoke ha ha second) fun _ => Drv.Preserves.pure _
  refine (h.stall hd hread hstall true).bind fun _ => ?_
  refine Drv.Preserves.ite (fun _ => ?_) fun _ => Drv.Preserves.pure _
  cases memtype with
  | unknown => exact Drv.Preserves.pure _
  | ram => exact Drv.Preserves.pure _
  | eeprom => exact hkeys d.control_flashDukr _ _
  | flash => exact hkeys d.control_flashPukr _ _
  | opt => exact hkeys d.control_flashDukr _ _

theorem Obeys.enterBlock (hd : d.Sound) (hpoke : PokeClosed d d.IsControl I)
    (memtype : Memtype) (current : Nat → Byte) (i : Nat) :
    Drv.Preserves (fun s => I (target s)) (lib.enterBlock d memtype current i) := by
  refine Drv.Preserves.ite (fun _ => ?_) fun _ => Drv.Preserves.pure ()
  have hcr2 := d.control_flashCr2
  exact (h.writeReg hd hpoke hcr2 hcr2 _).bind fun _ => h.writeNcr2 hd hpoke _

theorem Obeys.lock (hd : d.Sound) (hread : ReadClosed d I)
    (hpoke : PokeClosed d d.IsControl I) (memtype : Memtype) :
    Drv.Preserves (fun s => I (target s)) (lib.lock d memtype) := by
  have hiapsr := d.control_flashIapsr
  refine Drv.Preserves.ite (fun _ => ?_) fun _ => Drv.Preserves.pure ()
  refine (h.readByte hread _).bind fun _ => ?_
  refine Drv.Preserves.ite (fun _ => ?_) fun _ => Drv.Preserves.pure ()
  exact (h.writeReg hd hpoke hiapsr hiapsr _).bind fun _ => Drv.Preserves.pure ()

/-- The block command reaches the target with its block, or not at all. -/
theorem Obeys.sendBlock (hd : d.Sound) {buffer : Nat → Byte} {start i : Nat}
    (hlt : start + i < 16777216)
    (hwrite : ∀ t, I t → I (t.write d (start + i) (Image.slice buffer i d.flashBlockSize))) :
    Drv.Preserves (fun s => I (target s))
      (lib.swimWrite (Image.slice buffer i d.flashBlockSize) (u32 (start + i))
        d.flashBlockSize) := by
  have haddr : u32 (start + i) = start + i := u32_of_lt (by omega)
  have hsize : d.flashBlockSize < 256 := by
    rcases hd.block_size with hb | hb <;> omega
  have htake : (Image.slice buffer i d.flashBlockSize).take d.flashBlockSize =
      Image.slice buffer i d.flashBlockSize := List.take_of_length_le (by simp)
  rw [haddr]
  refine h.swimWrite I _ _ _ fun t ht => ?_
  show I (t.write d (espstlinkAddr (espstlinkCmd 2 d.flashBlockSize (start + i))) _)
  rw [espstlinkAddr_cmd hlt, espstlinkSize_cmd hsize, htake, htake]
  exact hwrite t ht

/-- Option bytes. -/
theorem Obeys.writeOpt (hd : d.Sound) (hread : ReadClosed d I) (hpoke : PokeClosed d d.IsControl I)
    {start length : Nat} (hwrite : WriteClosed d start length I)
    (hlim : start + length ≤ 16777216) (buffer : Nat → Byte) :
    Drv.Preserves (fun s => I (target s)) (lib.writeOpt d buffer start length) := by
  have hcr2 := d.control_flashCr2
  refine (h.writeReg hd hpoke hcr2 hcr2 _).bind fun _ => ?_
  refine (h.writeNcr2 hd hpoke _).bind fun _ => ?_
  refine Drv.Preserves.forFrom _ fun j _ hj => ?_
  have haddr : u32 (start + j) = start + j := u32_of_lt (by omega)
  unfold EspSwim.optByte
  rw [haddr]
  refine Drv.Preserves.bind (h.writeByte hd (by omega) fun t ht => ?_) fun _ =>
    tryEop_preserves (h.readByte hread _) _ _
  rw [← Target.write_one hd.one_lt]
  exact hwrite t _ _ (by omega) (by rw [List.length_singleton]; omega) ht

/-- What the registers, the reads and the blocks of the range keep, `espstlink_swim_write_range`
keeps. -/
theorem Obeys.writeRange (hd : d.Sound) (hread : ReadClosed d I)
    (hpoke : PokeClosed d d.IsControl I) {start length : Nat}
    (hwrite : WriteClosed d start (blockRounds d length * d.flashBlockSize) I)
    (hlim : start + blockRounds d length * d.flashBlockSize ≤ 16777216) (memtype : Memtype)
    (stackCurrent buffer : Nat → Byte) :
    Drv.Preserves (fun s => I (target s))
      (lib.writeRange d stackCurrent buffer start length memtype) := by
  have hle := length_le_rounds hd length
  have hwait := @Obeys.readByte _ _ _ _ h _ hread d.regs.flashIapsr
  have hlock := @Obeys.lock _ _ _ _ h _ hd hread hpoke memtype
  refine (h.prepareForFlash hd hread hpoke memtype).bind fun _ => ?_
  refine Drv.Preserves.ite (fun _ => ?_) fun _ => ?_
  · refine (h.writeOpt hd hread hpoke (hwrite.mono hle) (by omega) buffer).bind fun _ => ?_
    exact hlock.bind fun _ => Drv.Preserves.pure _
  · -- blocks
    refine Drv.Preserves.bind ?_ fun failed => ?_
    · refine (h.readRange hread _ _ _).bind fun r => ?_
      refine Drv.Preserves.loopFrom _ fun j _ hj => ?_
      have hin := round_in_range (show j < blockRounds d length by omega)
      have hblock := hd.one_lt
      refine Drv.Preserves.ite (fun _ => Drv.Preserves.pure _) fun _ => ?_
      refine (h.enterBlock hd hpoke memtype _ _).bind fun _ => ?_
      refine Drv.Preserves.bind (h.sendBlock hd (by omega) fun t ht => ?_) fun ok => ?_
      · exact hwrite t _ _ (by omega) (by rw [Image.slice_length]; omega) ht
      refine Drv.Preserves.ite (fun _ => Drv.Preserves.bind ?_ fun _ => Drv.Preserves.pure _)
        fun _ => Drv.Preserves.pure _
      exact Drv.Preserves.ite (fun _ => waitEop_preserves hwait _ _) fun _ => Drv.Preserves.pure ()
    · cases failed with
      | some i => exact Drv.Preserves.pure _
      | none => exact hlock.bind fun _ => Drv.Preserves.pure _

theorem Obeys.writeNegative (hd : d.Sound) (hread : ReadClosed d I)
    (hpoke : PokeClosed d d.IsControl I) {start size : Nat} (hwrite : WriteClosed d start size I)
    (hlim : start + size ≤ 16777216) (memtype : Memtype) (buffer : Nat → Byte) :
    Drv.Preserves (fun s => I (target s)) (lib.writeNegative d buffer start size memtype) := by
  refine (h.prepareForFlash hd hread hpoke memtype).bind fun _ => ?_
  exact Drv.Preserves.ite (fun _ => h.writeOpt hd hread hpoke hwrite hlim buffer)
    fun _ => Drv.Preserves.pure ()

end Effects

end EspLib

/-! ## The commands of the model -/

section Commands

variable {d : Stm8Device} {env : EspstlinkEnv} {I : Target → Prop}

/-- The command reaches the target, or it does not. -/
theorem espstlinkCommand_effect {p data : List Byte}
    (h : ∀ t, I t → I (espstlinkReceive d p data t)) :
    Drv.Preserves (fun s => I s.target) (espstlinkCommand d env p data) := by
  intro s hs
  unfold espstlinkCommand
  rw [Drv.state_bind_run, Drv.change_bind_run]
  show I (if env.answered s.commands ∨ env.carriedOut s.commands then
    espstlinkReceive d p data s.target else s.target)
  split
  · exact h _ hs
  · exact hs

theorem ofCommands_obeys (version : List Byte) :
    (EspLib.ofCommands d env version).Obeys d EspstlinkState.target := by
  have hplain (I : Target → Prop) (p : List Byte)
      (hp : ∀ t, espstlinkReceive d p [] t = t) :
      Drv.Preserves (fun s => I s.target) (espCommand d env p) := by
    refine (espstlinkCommand_effect fun t ht => ?_).bind fun _ => Drv.Preserves.pure _
    rw [hp]
    exact ht
  refine ⟨fun I => ?_, fun I input enable => hplain I _ fun _ => rfl,
    fun I => hplain I _ fun _ => rfl, fun I => hplain I _ fun _ => rfl,
    fun I addr size hread => ?_, fun I buffer addr size hwrite => ?_⟩
  · exact (espstlinkCommand_effect fun t ht => ht).bind fun _ => Drv.Preserves.pure _
  · refine (espstlinkCommand_effect fun t ht => ?_).bind fun _ => Drv.Preserves.pure _
    exact hread t _ _ ht
  · exact (espstlinkCommand_effect hwrite).bind fun _ => Drv.Preserves.pure _

theorem espstlinkSwimReadRange_effect (hread : ReadClosed d I) (buffer : Nat → Byte)
    (start length : Nat) :
    Drv.Preserves (fun s => I s.target) (espstlinkSwimReadRange d env buffer start length) :=
  (ofCommands_obeys []).readRange hread buffer start length

theorem espstlinkSrst_effect (hd : d.Sound) (hread : ReadClosed d I)
    (hstall : PokeClosed d (· = d.regs.flashDmCsr2) I) :
    Drv.Preserves (fun s => I s.target) (espstlinkSrst d env) :=
  (ofCommands_obeys []).srst hd hread hstall

theorem espstlinkSwimWriteRange_effect (hd : d.Sound) (hread : ReadClosed d I)
    (hpoke : PokeClosed d d.IsControl I) {start length : Nat}
    (hwrite : WriteClosed d start (blockRounds d length * d.flashBlockSize) I)
    (hlim : start + blockRounds d length * d.flashBlockSize ≤ 16777216) (memtype : Memtype)
    (buffer : Nat → Byte) :
    Drv.Preserves (fun s => I s.target)
      (espstlinkSwimWriteRange d env buffer start length memtype) :=
  (ofCommands_obeys []).writeRange hd hread hpoke hwrite hlim memtype _ buffer

theorem espstlinkWriteNegative_effect (hd : d.Sound) (hread : ReadClosed d I)
    (hpoke : PokeClosed d d.IsControl I) {start size : Nat} (hwrite : WriteClosed d start size I)
    (hlim : start + size ≤ 16777216) (memtype : Memtype) (buffer : Nat → Byte) :
    Drv.Preserves (fun s => I s.target)
      ((espSwim d env).writeNegative d buffer start size memtype) :=
  (ofCommands_obeys []).writeNegative hd hread hpoke hwrite hlim memtype buffer

/-! ## Where nothing fails -/

/-- The commands of this back end do not stop by themselves. -/
theorem espstlinkSrst_returns : Drv.Returns (espstlinkSrst d env) := by
  have hcommand (p data : List Byte) : Drv.Returns (espstlinkCommand d env p data) :=
    Drv.Returns.state.bind fun _ => (Drv.Returns.change _).bind fun _ => Drv.Returns.pure _
  have hread : Drv.Returns ((espSwim d env).readByte espstlinkDmCsr2) := by
    refine Drv.Returns.bind ((hcommand _ _).bind fun _ => Drv.Returns.pure _) fun bytes => ?_
    cases bytes with
    | none => exact Drv.Returns.pure _
    | some bs => exact Drv.Returns.pure _
  refine (hcommand _ _).bind fun _ => Drv.Returns.bind ?_ fun _ => Drv.Returns.pure _
  refine hread.bind fun csr => Drv.Returns.ite (fun _ => Drv.Returns.pure _) fun _ => ?_
  exact (hcommand _ _).bind fun _ => Drv.Returns.pure _

end Commands

end Stm8Flash
