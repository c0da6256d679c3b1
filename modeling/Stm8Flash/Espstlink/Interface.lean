import Stm8Flash.Espstlink.Model
import Stm8Flash.Lib.Sim

/-! # The ESP back end over two libraries

The commands of `espstlinkCommand` make a library for `espstlink.c` (`EspLib.ofCommands`). Two
libraries that simulate each other make its functions simulate each other.
-/

namespace Stm8Flash

open Hex Word

section Waits

variable {σ τ ε : Type} {R : σ → τ → Prop} {read : Drv σ ε Nat} {read' : Drv τ ε Nat}

theorem waitEop_sim (h : Drv.Sim R read read') (err : ε) (retries : Nat) :
    Drv.Sim R (waitEop read err retries) (waitEop read' err retries) := by
  induction retries with
  | zero => exact Drv.Sim.pure ()
  | succ n ih =>
    refine h.bind fun _ => Drv.Sim.ite (fun _ => Drv.Sim.pure ()) fun _ => ?_
    exact Drv.Sim.ite (fun _ => Drv.Sim.stop err) fun _ => ih

theorem tryEop_sim (h : Drv.Sim R read read') (err : ε) (tries : Nat) :
    Drv.Sim R (tryEop read err tries) (tryEop read' err tries) := by
  induction tries with
  | zero => exact Drv.Sim.stop err
  | succ n ih => exact h.bind fun _ => Drv.Sim.ite (fun _ => Drv.Sim.pure ()) fun _ => ih

end Waits

namespace EspLib

variable {σ τ : Type}

/-! ## The library of the commands -/

/-- The version in the two bytes of a response, if it is one that is supported. -/
def versionOf (response : List Byte) : Option Nat :=
  let version := (response.getD 0 0).toNat <<< 8 ||| (response.getD 1 0).toNat
  if version > 1 then none else some version

/-- `cmd` of `espstlink_reset` -/
def resetCmd (input enableReset : Bool) : List Byte :=
  [0xFD, if input then 0xFF else if enableReset then 1 else 0]

/-- The functions of the library, as commands that are answered or not; `version` is the response
to `GET_VERSION`. -/
def ofCommands (d : Stm8Device) (env : EspstlinkEnv) (version : List Byte) :
    EspLib EspstlinkState where
  fetchVersion := do
    let target ← espstlinkCommand d env [0xFF] []
    pure (target.bind fun _ => versionOf version)
  reset input enableReset := espCommand d env (resetCmd input enableReset)
  swimEntry := espCommand d env [0xFE]
  toEspSwim := espSwim d env
  swimSrst := espCommand d env [0]

/-! ## Libraries that simulate each other -/

/-- The functions of the two libraries simulate each other, from states that `R` relates. A read
asks for 255 bytes at most. -/
structure Sim (R : σ → τ → Prop) (lib : EspLib σ) (lib' : EspLib τ) : Prop where
  swimRead : ∀ addr size, size < 256 → Drv.Sim R (lib.swimRead addr size) (lib'.swimRead addr size)
  swimWrite : ∀ buffer addr size,
    Drv.Sim R (lib.swimWrite buffer addr size) (lib'.swimWrite buffer addr size)
  swimSrst : Drv.Sim R lib.swimSrst lib'.swimSrst
  fetchVersion : Drv.Sim R lib.fetchVersion lib'.fetchVersion
  reset : ∀ input enable, Drv.Sim R (lib.reset input enable) (lib'.reset input enable)
  swimEntry : Drv.Sim R lib.swimEntry lib'.swimEntry

section Sim

variable {R : σ → τ → Prop} {lib : EspLib σ} {lib' : EspLib τ} (h : Sim R lib lib')

include h

theorem Sim.readByte (addr : Nat) : Drv.Sim R (lib.readByte addr) (lib'.readByte addr) := by
  refine (h.swimRead addr 1 (by decide)).bind fun bytes => ?_
  cases bytes with
  | none => exact Drv.Sim.pure _
  | some bs => exact Drv.Sim.pure _

theorem Sim.writeByte (byte : Byte) (addr : Nat) :
    Drv.Sim R (lib.writeByte byte addr) (lib'.writeByte byte addr) := h.swimWrite _ _ _

theorem Sim.stall (stall : Bool) : Drv.Sim R (lib.stall stall) (lib'.stall stall) := by
  refine (h.readByte _).bind fun csr => ?_
  exact Drv.Sim.ite (fun _ => Drv.Sim.pure _) fun _ => h.writeByte _ _

theorem Sim.keys (first second : Byte) (reg : Nat) :
    Drv.Sim R (lib.keys first second reg) (lib'.keys first second reg) :=
  (h.writeByte _ _).bind fun _ => Drv.Sim.ite (fun _ => h.writeByte _ _) fun _ => Drv.Sim.pure _

theorem Sim.prepareForFlash (d : Stm8Device) (memtype : Memtype) :
    Drv.Sim R (lib.prepareForFlash d memtype) (lib'.prepareForFlash d memtype) := by
  refine (h.stall true).bind fun _ => Drv.Sim.ite (fun _ => ?_) fun _ => Drv.Sim.pure _
  cases memtype with
  | unknown => exact Drv.Sim.pure _
  | ram => exact Drv.Sim.pure _
  | eeprom => exact h.keys _ _ _
  | flash => exact h.keys _ _ _
  | opt => exact h.keys _ _ _

theorem Sim.readRange (buffer : Nat → Byte) (start length : Nat) :
    Drv.Sim R (lib.readRange buffer start length) (lib'.readRange buffer start length) := by
  have hloop : ∀ fuel i buffer, Drv.Sim R (lib.readLoop start length fuel i buffer)
      (lib'.readLoop start length fuel i buffer) := by
    intro fuel
    induction fuel with
    | zero => exact fun i buffer => Drv.Sim.pure _
    | succ fuel ih =>
      intro i buffer
      refine Drv.Sim.ite (fun _ => ?_) fun _ => Drv.Sim.pure _
      refine Drv.Sim.ite (fun _ => ?_) fun _ => Drv.Sim.stop _
      refine (h.swimRead _ _ (by split <;> omega)).bind fun bytes => ?_
      cases bytes with
      | none => exact Drv.Sim.pure _
      | some bs => exact ih _ _
  exact (hloop length 0 buffer).bind fun _ => Drv.Sim.pure _

theorem Sim.writeNcr2 (d : Stm8Device) (byte : Byte) :
    Drv.Sim R (lib.writeNcr2 d byte) (lib'.writeNcr2 d byte) :=
  Drv.Sim.ite (fun _ => (h.writeByte _ _).bind fun _ => Drv.Sim.pure _) fun _ => Drv.Sim.pure _

theorem Sim.writeOpt (d : Stm8Device) (buffer : Nat → Byte) (start length : Nat) :
    Drv.Sim R (lib.writeOpt d buffer start length) (lib'.writeOpt d buffer start length) := by
  refine (h.writeByte _ _).bind fun _ => (h.writeNcr2 d _).bind fun _ => ?_
  refine Drv.Sim.forFrom (fun i => ?_) length 0
  exact (h.writeByte _ _).bind fun _ => tryEop_sim (h.readByte _) _ _

theorem Sim.lock (d : Stm8Device) (memtype : Memtype) :
    Drv.Sim R (lib.lock d memtype) (lib'.lock d memtype) := by
  refine Drv.Sim.ite (fun _ => ?_) fun _ => Drv.Sim.pure _
  refine (h.readByte _).bind fun _ => Drv.Sim.ite (fun _ => ?_) fun _ => Drv.Sim.pure _
  exact (h.writeByte _ _).bind fun _ => Drv.Sim.pure _

theorem Sim.writeBlock (d : Stm8Device) (memtype : Memtype) (buffer current : Nat → Byte)
    (start i : Nat) : Drv.Sim R (lib.writeBlock d memtype buffer current start i)
      (lib'.writeBlock d memtype buffer current start i) := by
  refine Drv.Sim.ite (fun _ => Drv.Sim.pure _) fun _ => ?_
  refine Drv.Sim.bind (Drv.Sim.ite (fun _ => ?_) fun _ => Drv.Sim.pure _) fun _ => ?_
  · exact (h.writeByte _ _).bind fun _ => h.writeNcr2 d _
  refine (h.swimWrite _ _ _).bind fun _ => Drv.Sim.ite (fun _ => ?_) fun _ => Drv.Sim.pure _
  refine Drv.Sim.bind (Drv.Sim.ite (fun _ => ?_) fun _ => Drv.Sim.pure _) fun _ => Drv.Sim.pure _
  exact waitEop_sim (h.readByte _) _ _

theorem Sim.writeRange (d : Stm8Device) (stackCurrent buffer : Nat → Byte) (start length : Nat)
    (memtype : Memtype) :
    Drv.Sim R (lib.writeRange d stackCurrent buffer start length memtype)
      (lib'.writeRange d stackCurrent buffer start length memtype) := by
  refine (h.prepareForFlash d memtype).bind fun _ => Drv.Sim.ite (fun _ => ?_) fun _ => ?_
  · refine (h.writeOpt d buffer start length).bind fun _ => ?_
    exact (h.lock d memtype).bind fun _ => Drv.Sim.pure _
  · refine Drv.Sim.bind ?_ fun failed => ?_
    · refine (h.readRange stackCurrent start _).bind fun r => ?_
      exact Drv.Sim.loopFrom (fun j => h.writeBlock d memtype _ _ start _) _ _
    · cases failed with
      | some i => exact Drv.Sim.pure _
      | none => exact (h.lock d memtype).bind fun _ => Drv.Sim.pure _

theorem Sim.writeNegative (d : Stm8Device) (buffer : Nat → Byte) (start size : Nat)
    (memtype : Memtype) :
    Drv.Sim R (lib.writeNegative d buffer start size memtype)
      (lib'.writeNegative d buffer start size memtype) := by
  refine (h.prepareForFlash d memtype).bind fun _ => ?_
  exact Drv.Sim.ite (fun _ => h.writeOpt d buffer start size) fun _ => Drv.Sim.pure ()

theorem Sim.srst : Drv.Sim R lib.srst lib'.srst :=
  h.swimSrst.bind fun _ => (h.stall false).bind fun _ => Drv.Sim.pure _

theorem Sim.pgmOpen : Drv.Sim R lib.pgmOpen lib'.pgmOpen := by
  have hreset (version : Int) (input enable : Bool) :
      Drv.Sim R (lib.connect.resetPin version input enable)
        (lib'.connect.resetPin version input enable) :=
    Drv.Sim.ite (fun _ => h.reset input enable) fun _ => Drv.Sim.pure true
  refine h.fetchVersion.bind fun version => ?_
  cases version with
  | none => exact Drv.Sim.pure _
  | some v =>
    refine (hreset v false true).bind fun _ => Drv.Sim.ite (fun _ => ?_) fun _ => Drv.Sim.pure _
    refine h.swimEntry.bind fun _ => Drv.Sim.ite (fun _ => ?_) fun _ => Drv.Sim.pure _
    refine h.swimSrst.bind fun _ => Drv.Sim.ite (fun _ => ?_) fun _ => Drv.Sim.pure _
    refine (h.writeByte _ _).bind fun _ => (hreset v true false).bind fun _ => ?_
    exact Drv.Sim.ite (fun _ => Drv.Sim.pure _) fun _ => Drv.Sim.pure _

end Sim

end EspLib

end Stm8Flash
