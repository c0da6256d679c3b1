import Stm8Flash.Espstlink.Range

/-! # A command of the ESP programmer, whether its answer is accepted or not

Each command changes the target when it has its effect, and delivers something when its answer is
accepted; the one does not need the other.
-/

namespace Stm8Flash

open Hex Word

/-- The command `k` has its effect. -/
def EspstlinkEnv.Effective (env : EspstlinkEnv) (k : Nat) : Prop :=
  env.answered k = true ∨ env.carriedOut k = true

instance (env : EspstlinkEnv) (k : Nat) : Decidable (env.Effective k) :=
  inferInstanceAs (Decidable (_ ∨ _))

section Runs

variable {d : Stm8Device} {env : EspstlinkEnv}

/-- A read and what it delivers, whether its answer is accepted or not. -/
theorem espstlinkSwimRead_run {addr size : Nat} (ha : addr < 16777216) (hsize : size < 256)
    (s : EspstlinkState) :
    (espSwim d env).swimRead addr size s =
      (.ok (if env.answered s.commands then some (s.target.read d env.hw addr size) else none),
        s.command (espstlinkCmd 1 size addr) (env.answered s.commands)
          (if env.Effective s.commands then s.target.afterRead d addr size else s.target)) := by
  have hreceive : espstlinkReceive d (espstlinkCmd 1 size addr) [] s.target =
      s.target.afterRead d addr size := by
    have hcmd : (espstlinkCmd 1 size addr).getD 0 0 = 1 := rfl
    rw [espstlinkReceive, hcmd, if_neg (by decide), if_pos rfl, espstlinkAddr_cmd ha,
      espstlinkSize_cmd hsize]
  rw [espSwim_swimRead]
  unfold espstlinkSwimRead espstlinkCommand
  rw [espstlinkAddr_cmd ha, espstlinkSize_cmd hsize]
  simp only [Drv.bind_run, Drv.state_run, Drv.change_run, Drv.pure_run, List.append_nil, hreceive]
  by_cases hanswered : env.answered s.commands = true
  · simp only [if_pos hanswered, Option.map_some]
    rfl
  · simp only [if_neg hanswered, Option.map_none]
    rfl

/-- A write and what it does, whether its answer is accepted or not. -/
theorem espstlinkSwimWrite_run {buffer : List Byte} {addr size : Nat} (ha : addr < 16777216)
    (hsize : size < 256) (hlen : buffer.length = size) (s : EspstlinkState) :
    (espSwim d env).swimWrite buffer addr size s = (.ok (env.answered s.commands),
      s.command (espstlinkCmd 2 size addr ++ buffer) (env.answered s.commands)
        (if env.Effective s.commands then s.target.write d addr buffer else s.target)) := by
  have hall : buffer.take size = buffer := List.take_of_length_le (by omega)
  have hreceive : espstlinkReceive d (espstlinkCmd 2 size addr) buffer s.target =
      s.target.write d addr buffer := by
    have hcmd : (espstlinkCmd 2 size addr).getD 0 0 = 2 := rfl
    rw [espstlinkReceive, hcmd, if_pos rfl, espstlinkAddr_cmd ha, espstlinkSize_cmd hsize, hall]
  have hanswer : (if env.answered s.commands = true then some s.target else none).isSome =
      env.answered s.commands := by
    cases env.answered s.commands <;> rfl
  rw [espSwim_swimWrite]
  unfold espstlinkSwimWrite espstlinkCommand
  rw [espstlinkSize_cmd hsize, hall, Drv.bind_run, Drv.state_bind_run, Drv.change_bind_run,
    Drv.pure_run, hreceive]
  simp only [Drv.pure_run]
  rw [hanswer]
  rfl

theorem espstlinkWriteByte_run (hb : 1 < d.flashBlockSize) {a : Nat} (ha : a < 16777216)
    (v : Byte) (s : EspstlinkState) :
    (espSwim d env).writeByte v a s = (.ok (env.answered s.commands),
      s.command (espstlinkCmd 2 1 a ++ [v]) (env.answered s.commands)
        (if env.Effective s.commands then s.target.poke d a v else s.target)) := by
  rw [← Target.write_one hb]
  exact espstlinkSwimWrite_run ha (show 1 < 256 by decide) rfl s

theorem espstlinkReadByte_run {a : Nat} (ha : a < 16777216) (s : EspstlinkState) :
    (espSwim d env).readByte a s =
      (.ok (if env.answered s.commands then (s.target.peek d env.hw a).toNat else 0xFFFFFFFF),
        s.command (espstlinkCmd 1 1 a) (env.answered s.commands)
          (if env.Effective s.commands then s.target.afterRead d a 1 else s.target)) := by
  unfold EspSwim.readByte
  rw [Drv.bind_run, espstlinkSwimRead_run ha (by decide)]
  by_cases hanswered : env.answered s.commands = true
  · simp only [if_pos hanswered]
    rfl
  · simp only [if_neg hanswered]
    rfl

/-- A read whose answer is accepted gives what the target shows. -/
theorem espstlinkSwimRead_some {addr size : Nat} (ha : addr < 16777216) (hsize : size < 256)
    {s t : EspstlinkState} {bs : List Byte}
    (hrun : (espSwim d env).swimRead addr size s = (.ok (some bs), t)) :
    bs = s.target.read d env.hw addr size := by
  rw [espstlinkSwimRead_run ha hsize] at hrun
  by_cases hanswered : env.answered s.commands = true
  · rw [if_pos hanswered] at hrun
    cases hrun
    rfl
  · rw [if_neg hanswered] at hrun
    cases hrun

theorem espstlinkSwimRead_length {addr size : Nat} (hsize : size < 256) {s t : EspstlinkState}
    {bs : List Byte} (hrun : (espSwim d env).swimRead addr size s = (.ok (some bs), t)) :
    bs.length = size := by
  rw [espSwim_swimRead, espstlinkSwimRead] at hrun
  rcases Drv.bind_eq_ok.mp hrun with ⟨target, u, -, hrest⟩
  cases target with
  | none => cases hrest
  | some target =>
    cases hrest
    rw [Target.read_length, espstlinkSize_cmd hsize]

end Runs

/-- An ESP programmer that fails the command `k` and no other, with the bytes `stack` where the
pre-read goes. -/
def EspstlinkEnv.losing (k : Nat) (stack : Byte) : EspstlinkEnv where
  hw := .ready
  answered := fun j => j ≠ k
  carriedOut := fun _ => false
  stackCurrent := fun _ => stack

end Stm8Flash
