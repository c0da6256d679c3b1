import Stm8Flash.Espstlink.Effects
import Stm8Flash.Main.Report
import Stm8Flash.Stlink.Effects
import Stm8Flash.Stlinkv2.Effects
import Stm8Flash.Stlinkv2.Transfers

/-! # The rows of `pgms`

What `main` relies on, for all its programmers at once: where nothing fails, a range that is read
is what the target holds, a range that is written is on the target afterwards, and reset and close
change nothing of it; and however the environment behaves, a read changes nothing
(`Backend.readRange_effect`).
-/

namespace Stm8Flash

open Hex Word

/-- What the methods of a programmer do to the target, however they end: reads and registers of the
session, and the range that is written, when it ends at `limit` at most. -/
structure Programmer.Obeys {σ ε : Type} (pgm : Programmer σ ε) (d : Stm8Device) (target : σ → Target)
    (limit : Nat) : Prop where
  readRange : ∀ {I : Target → Prop}, ReadClosed d I → PokeClosed d d.SessionReg I →
    ∀ buffer start length,
      Drv.Preserves (fun s => I (target s)) (pgm.readRange buffer start length)
  writeRange : ∀ {I : Target → Prop}, ReadClosed d I → PokeClosed d d.IsControl I →
    ∀ {start length}, WriteClosed d start (blockRounds d length * d.flashBlockSize) I →
      start + blockRounds d length * d.flashBlockSize ≤ limit → ∀ memtype buffer,
      Drv.Preserves (fun s => I (target s)) (pgm.writeRange buffer start length memtype)
  writeNegative : ∀ {I : Target → Prop}, ReadClosed d I → PokeClosed d d.IsControl I →
    ∀ {start size}, WriteClosed d start size I → start + size ≤ limit → ∀ memtype buffer,
      Drv.Preserves (fun s => I (target s)) (pgm.writeNegative buffer start size memtype)
  reset : ∀ {I : Target → Prop}, ReadClosed d I → PokeClosed d d.ModeFree I →
    Drv.Preserves (fun s => I (target s)) pgm.reset
  close : ∀ {I : Target → Prop}, ReadClosed d I → Drv.Preserves (fun s => I (target s)) pgm.close

/-- A row of `pgms` in its environment; `stlinkv3` has the functions of `stlinkv21`. -/
inductive Backend where
  | stlink (env : StlinkEnv)
  | stlinkv2 (env : Stlinkv2Env)
  | stlinkv21 (env : Stlinkv2Env)
  | espstlink (env : EspstlinkEnv)

namespace Backend

/-- What the program knows of the programmer and the target. -/
def State : Backend → Type
  | stlink _ => StlinkState
  | stlinkv2 _ => Stlinkv2State
  | stlinkv21 _ => Stlinkv2State
  | espstlink _ => EspstlinkState

def Error : Backend → Type
  | stlink _ => StlinkError
  | stlinkv2 _ => Stlinkv2Error
  | stlinkv21 _ => Stlinkv2Error
  | espstlink _ => EspstlinkError

def pgm (d : Stm8Device) : (b : Backend) → Programmer b.State b.Error
  | stlink env => pgmStlink d env
  | stlinkv2 env => pgmStlinkv2 d env
  | stlinkv21 env => pgmStlinkv21 d env
  | espstlink env => pgmEspstlink d env

def target : (b : Backend) → b.State → Target
  | stlink _ => StlinkState.target
  | stlinkv2 _ => Stlinkv2State.target
  | stlinkv21 _ => Stlinkv2State.target
  | espstlink _ => EspstlinkState.target

/-- The addresses that arrive as they are: ST-Link V1 sends 16 bits, the others at least 24. -/
def limit : Backend → Nat
  | stlink _ => 65536
  | stlinkv2 _ => 16777216
  | stlinkv21 _ => 16777216
  | espstlink _ => 16777216

/-- Every command succeeds, and the ends of programming operations are seen. -/
def NoFailure : Backend → Prop
  | stlink env => env.NoFailure
  | stlinkv2 env => env.NoFailure ∧ env.hw.SeesEop
  | stlinkv21 env => env.NoFailure ∧ env.hw.SeesEop
  | espstlink env => env.NoFailure ∧ env.hw.SeesEop

theorem limit_le (b : Backend) : b.limit ≤ 16777216 := by
  cases b <;> simp [limit]

section Specs

variable {d : Stm8Device}

/-! ## Runs that only read -/

/-- What the reads and the registers of the session keep, a read of a range keeps, whatever
fails. -/
theorem readRange_effect (hd : d.Sound) (b : Backend) {I : Target → Prop} (hread : ReadClosed d I)
    (hpoke : PokeClosed d d.SessionReg I) (buffer : Nat → Byte) (start length : Nat) :
    Drv.Preserves (fun s => I (b.target s)) ((b.pgm d).readRange buffer start length) := by
  cases b with
  | stlink env => exact stlinkSwimReadRange_effect hd hread hpoke buffer start length
  | stlinkv2 env => exact stlink2SwimReadRange_effect hread buffer start length
  | stlinkv21 env => exact stlink2SwimReadRange_effect hread buffer start length
  | espstlink env => exact espstlinkSwimReadRange_effect hread buffer start length

/-! ## Runs that write -/

/-- What the registers, the reads and the blocks of a range keep, a write to the range keeps,
whatever fails. -/
theorem writeRange_effect (hd : d.Sound) (b : Backend) {I : Target → Prop}
    (hread : ReadClosed d I) (hpoke : PokeClosed d d.IsControl I) {start length : Nat}
    (hwrite : WriteClosed d start (blockRounds d length * d.flashBlockSize) I)
    (hlim : start + blockRounds d length * d.flashBlockSize ≤ b.limit) (memtype : Memtype)
    (buffer : Nat → Byte) :
    Drv.Preserves (fun s => I (b.target s)) ((b.pgm d).writeRange buffer start length memtype) := by
  cases b with
  | stlink env => exact stlinkSwimWriteRange_effect hd hpoke hwrite hlim memtype buffer
  | stlinkv2 env => exact stlink2SwimWriteRange_effect hd hread hpoke hwrite hlim memtype buffer
  | stlinkv21 env => exact stlink2SwimWriteRange_effect hd hread hpoke hwrite hlim memtype buffer
  | espstlink env => exact espstlinkSwimWriteRange_effect hd hread hpoke hwrite hlim memtype buffer

theorem writeNegative_effect (hd : d.Sound) (b : Backend) {I : Target → Prop}
    (hread : ReadClosed d I) (hpoke : PokeClosed d d.IsControl I) {start size : Nat}
    (hwrite : WriteClosed d start size I) (hlim : start + size ≤ b.limit) (memtype : Memtype)
    (buffer : Nat → Byte) :
    Drv.Preserves (fun s => I (b.target s))
      ((b.pgm d).writeNegative buffer start size memtype) := by
  cases b with
  | stlink env => exact stlinkWriteNegative_effect hd hpoke memtype
  | stlinkv2 env => exact stlink2WriteNegative_effect hd hread hpoke hwrite hlim memtype buffer
  | stlinkv21 env => exact stlink2WriteNegative_effect hd hread hpoke hwrite hlim memtype buffer
  | espstlink env => exact espstlinkWriteNegative_effect hd hread hpoke hwrite hlim memtype buffer

/-- A reset writes to control registers only. -/
theorem reset_effect (hd : d.Sound) (b : Backend) {I : Target → Prop} (hread : ReadClosed d I)
    (hpoke : PokeClosed d d.ModeFree I) :
    Drv.Preserves (fun s => I (b.target s)) (b.pgm d).reset := by
  rcases hd.ne_cr2 with ⟨hckdivr, -, -, -, -, hdm⟩
  have hsession : PokeClosed d d.SessionReg I := by
    refine hpoke.mono fun a ha => ⟨ha.control, ?_⟩
    rcases ha with rfl | rfl
    · exact hckdivr
    · exact hd.swimCsr_ne_cr2
  cases b with
  | stlink env => exact stlinkSwimSrst_effect
  | stlinkv2 env => exact stlink2Srst_effect hd hread hsession
  | stlinkv21 env => exact stlink2Srst_effect hd hread hsession
  | espstlink env =>
    refine espstlinkSrst_effect hd hread (hpoke.mono fun a ha => ?_)
    rw [ha]
    exact ⟨d.control_flashDmCsr2, hdm⟩

theorem close_effect (b : Backend) {I : Target → Prop} (hread : ReadClosed d I) :
    Drv.Preserves (fun s => I (b.target s)) (b.pgm d).close := by
  cases b with
  | stlink env => exact Drv.Preserves.pure ()
  | stlinkv2 env => exact stlink2Close_effect hread
  | stlinkv21 env => exact Drv.Preserves.pure ()
  | espstlink env => exact Drv.Preserves.pure ()

theorem obeys (hd : d.Sound) (b : Backend) : (b.pgm d).Obeys d b.target b.limit where
  readRange hread hpoke := readRange_effect hd b hread hpoke
  writeRange hread hpoke _ _ hwrite hlim := writeRange_effect hd b hread hpoke hwrite hlim
  writeNegative hread hpoke _ _ hwrite hlim := writeNegative_effect hd b hread hpoke hwrite hlim
  reset hread hpoke := reset_effect hd b hread hpoke
  close hread := close_effect b hread

/-! ## Where nothing fails -/

variable {b : Backend} {m : Nat → Byte}

/-- A range that is read is what the target holds, but for the control registers. -/
theorem readRange_value (hd : d.Sound) (hok : b.NoFailure) {start length : Nat}
    (hlim : start + length ≤ b.limit) (buffer : Nat → Byte) {s : b.State}
    (hs : (b.target s).Holds d m) :
    ∃ buf t, (b.pgm d).readRange buffer start length s = (.ok (toInt32 length, buf), t) ∧
      (∀ k < length, ¬d.IsControl (start + k) → buf k = m (start + k)) ∧
      (b.target s).Untouched d (b.target t) := by
  have huntouched := readRange_effect hd b Target.Untouched.readClosed
    (Target.Untouched.pokeClosed hd) buffer start length s (Target.Untouched.refl d (b.target s))
  -- data are shown as they are
  have hdata (hw : Hardware) {k : Nat} (hk : ¬d.IsControl (start + k)) :
      (b.target s).peek d hw (start + k) = m (start + k) := hs.peek hw hk
  cases b with
  | stlink env =>
    obtain ⟨⟨v, buf⟩, t, hrun, hv, hbuf⟩ :=
      (stlinkSwimReadRange_read hd hok hlim buffer).returns (s := s) rfl
    obtain rfl : v = toInt32 length := hv
    refine ⟨buf, t, hrun, fun k hk hctl => ?_, ?_⟩
    · exact (hbuf k hk fun h => hctl h.control).trans (hdata env.hw hctl)
    · rw [show (pgm d (.stlink env)).readRange buffer start length s = _ from hrun] at huntouched
      exact huntouched
  | stlinkv2 env =>
    obtain ⟨⟨v, buf⟩, t, hrun, ⟨hv, hbuf⟩, -⟩ :=
      (stlink2SwimReadRange_read (d := d) hok.1 hlim buffer).returns (s := s) rfl
    obtain rfl : v = toInt32 length := hv
    refine ⟨buf, t, hrun, fun k hk hctl => (hbuf k hk).trans (hdata env.hw hctl), ?_⟩
    rw [show (pgm d (.stlinkv2 env)).readRange buffer start length s = _ from hrun] at huntouched
    exact huntouched
  | stlinkv21 env =>
    obtain ⟨⟨v, buf⟩, t, hrun, ⟨hv, hbuf⟩, -⟩ :=
      (stlink2SwimReadRange_read (d := d) hok.1 hlim buffer).returns (s := s) rfl
    obtain rfl : v = toInt32 length := hv
    refine ⟨buf, t, hrun, fun k hk hctl => (hbuf k hk).trans (hdata env.hw hctl), ?_⟩
    rw [show (pgm d (.stlinkv21 env)).readRange buffer start length s = _ from hrun] at huntouched
    exact huntouched
  | espstlink env =>
    obtain ⟨⟨v, buf⟩, t, hrun, ⟨hv, hbuf⟩, -⟩ :=
      (espstlinkSwimReadRange_read (d := d) hok.1 hlim buffer).returns (s := s) rfl
    obtain rfl : v = toInt32 length := hv
    refine ⟨buf, t, hrun, fun k hk hctl => (hbuf k hk).trans (hdata env.hw hctl), ?_⟩
    rw [show (pgm d (.espstlink env)).readRange buffer start length s = _ from hrun] at huntouched
    exact huntouched

/-- A range that is written is on the target afterwards, and behind it nothing but the rest of the
last block can have changed. -/
theorem writeRange_value (hd : d.Sound) (hok : b.NoFailure) {start length : Nat}
    (hreq : DataRange d start length)
    (hlim : start + blockRounds d length * d.flashBlockSize ≤ b.limit) (memtype : Memtype)
    (buffer : Nat → Byte) {s : b.State} (hs : (b.target s).Ready d m) :
    ∃ v t m', (b.pgm d).writeRange buffer start length memtype s = (.ok v, t) ∧
      (length : Int) ≤ v ∧ (b.target t).Ready d m' ∧ (∀ k < length, m' (start + k) = buffer k) ∧
      ∀ a, a < start ∨ start + blockRounds d length * d.flashBlockSize ≤ a → m' a = m a := by
  have hle := length_le_rounds hd length
  have hbelow := hreq.below
  -- what V2 and the ESP programmer leave
  have hexact : (∀ k < length, written m buffer start length (start + k) = buffer k) ∧
      ∀ a, a < start ∨ start + blockRounds d length * d.flashBlockSize ≤ a →
        written m buffer start length a = m a :=
    ⟨fun k hk => written_at hk, fun a ha => written_off (by omega)⟩
  have hvalue : (length : Int) ≤ toInt32 length := by
    rw [toInt32_of_lt (by omega)]
  cases b with
  | stlink env =>
    have hspec := (@stlinkSwimWriteRange_spec d env m hd memtype buffer start length hlim
      hreq.aligned hreq.data).total (stlinkSwimWriteRange_returns hd hok memtype (by omega) buffer)
    obtain ⟨v, t, hrun, hready⟩ := hspec.returns hs
    have hv := (stlinkSwimWriteRange_value d env buffer start length memtype).of_ok trivial hrun
    refine ⟨v, t, _, hrun, ?_, hready, fun k hk => ?_, fun a ha => written_off ha⟩
    · rw [hv]
      exact hvalue
    · rw [written_at (by omega), zeroPadded, if_pos hk]
  | stlinkv2 env =>
    obtain ⟨v, t, hrun, hv, hready⟩ := (@stlink2SwimWriteRange_spec d env m hd hok.1 hok.2 memtype
      buffer start length hreq.below hreq.aligned hreq.data).returns hs
    exact ⟨v, t, _, hrun, hv ▸ hvalue, hready, hexact⟩
  | stlinkv21 env =>
    obtain ⟨v, t, hrun, hv, hready⟩ := (@stlink2SwimWriteRange_spec d env m hd hok.1 hok.2 memtype
      buffer start length hreq.below hreq.aligned hreq.data).returns hs
    exact ⟨v, t, _, hrun, hv ▸ hvalue, hready, hexact⟩
  | espstlink env =>
    obtain ⟨v, t, hrun, hv, hready⟩ := (@espstlinkSwimWriteRange_spec d env m hd hok.1 hok.2 memtype
      buffer start length hreq.below hreq.aligned hreq.data).returns hs
    exact ⟨v, t, _, hrun, hv, hready, hexact⟩

theorem reset_returns (hd : d.Sound) (hok : b.NoFailure) : Drv.Returns (b.pgm d).reset := by
  cases b with
  | stlink env => exact stlinkSwimSrst_returns hok
  | stlinkv2 env => exact stlink2Srst_returns hd hok.1
  | stlinkv21 env => exact stlink2Srst_returns hd hok.1
  | espstlink env => exact espstlinkSrst_returns

theorem close_returns (hok : b.NoFailure) : Drv.Returns (b.pgm d).close := by
  cases b with
  | stlink env => exact Drv.Returns.pure ()
  | stlinkv2 env => exact stlink2CmdInternal_returns hok.1.transferred _ _ _
  | stlinkv21 env => exact Drv.Returns.pure ()
  | espstlink env => exact Drv.Returns.pure ()

end Specs

end Backend

end Stm8Flash
