import Stm8Flash.Stlink.Effects

/-! # Opening an ST-Link V1

`stlink_open` asks the programmer for its status and sets it up when this has not been done yet. Its
commands do not reach the target, whatever comes back (`stlinkOpen_seen`).
-/

namespace Stm8Flash

open Hex Word

/-- What the programmer answers to the commands of `stlink_open`, and what the code leaves open. -/
structure StlinkHello where
  /-- `buf` at first -/
  buf : List Byte
  /-- the reply to the command 0xF1 -/
  version : List Byte
  /-- the sixth byte of the command 0x12, for which the call has no argument -/
  inquiryArg : Byte
  inquiry : List Byte
  /-- the reply to the command 0xF5 -/
  status : List Byte

/-- The cases of `switch(status)`. -/
inductive StlinkStatus where
  /-- `Ok` -/
  | ok
  /-- `Already initialized` -/
  | initialized
  /-- `Busy` -/
  | busy
  /-- `Unknown status: %x` -/
  | unknown (status : Nat)
deriving DecidableEq, Repr

def StlinkStatus.of (status : Nat) : StlinkStatus :=
  if status = 0x0000 then ok
  else if status = 0x0003 then initialized
  else if status = 0x0001 then busy
  else unknown status

section Open

variable (d : Stm8Device) (env : StlinkEnv)

/-- `stlink_test_unit_ready` -/
def stlinkTestUnitReady : Stlink Unit := do
  let _ ← stlinkCmd d env 0 0x00 [0, 0, 0, 0, 0, 0] []
  pure ()

/-- `stlink_open` up to the `switch`: `status`. A reply that is too short leaves what earlier ones
have stored in `buf`. -/
def stlinkStatus (hello : StlinkHello) : Stlink Nat := do
  stlinkTestUnitReady d env
  let version ← stlinkCmd d env 0x06 0x80 [0xf1, 0x80, 0x00, 0x00, 0x00, 0x00] hello.version
  stlinkTestUnitReady d env
  let inquiry ← stlinkCmd d env 0x12 0x80 [0x12, 0x80, 0x00, 0x00, 0x20, hello.inquiryArg]
    hello.inquiry
  stlinkTestUnitReady d env
  let status ← stlinkCmd d env 2 0x80 [0xf5, 0x00] hello.status
  stlinkTestUnitReady d env
  pure (unpackInt16Le (stlinkBuf (stlinkBuf (stlinkBuf hello.buf version) inquiry) status))

/-- The initializing sequence; nobody looks at its replies. -/
def stlinkInitialize : Stlink Unit := do
  let _ ← stlinkCmd d env 0 0x80 [0xf3, 0x07] []
  let _ ← stlinkCmd d env 0 0x00 [0xf4, 0x00] []
  let _ ← stlinkCmd d env 2 0x80 [0xf4, 0x0d] []
  let _ ← stlinkCmd d env 8 0x80 [0xf4, 0x02, 0x01] []
  pure ()

/-- `stlink_open` -/
def stlinkOpen (hello : StlinkHello) : Stlink Bool := do
  let status ← stlinkStatus d env hello
  match StlinkStatus.of status with
  | .ok => do
    stlinkInitialize d env
    pure true
  | .initialized => pure true
  | .busy => pure false
  | .unknown _ => pure false

end Open

section Results

variable {d : Stm8Device} {env : StlinkEnv}

theorem stlinkTestUnitReady_seen : Drv.Keeps StlinkState.seen (stlinkTestUnitReady d env) :=
  (stlinkCmd_seen ⟨by decide, by decide⟩ _ _ _).bind fun _ => Drv.Keeps.pure _

theorem stlinkStatus_seen (hello : StlinkHello) :
    Drv.Keeps StlinkState.seen (stlinkStatus d env hello) := by
  have hinquiry : Plain [0x12, 0x80, 0x00, 0x00, 0x20, hello.inquiryArg] :=
    ⟨show (0x80 : Byte) ≠ 0x0a by decide, show (0x80 : Byte) ≠ 0x0b by decide⟩
  refine stlinkTestUnitReady_seen.bind fun _ => ?_
  refine (stlinkCmd_seen ⟨by decide, by decide⟩ _ _ _).bind fun _ => ?_
  refine stlinkTestUnitReady_seen.bind fun _ => ?_
  refine (stlinkCmd_seen hinquiry _ _ _).bind fun _ => ?_
  refine stlinkTestUnitReady_seen.bind fun _ => ?_
  refine (stlinkCmd_seen ⟨by decide, by decide⟩ _ _ _).bind fun _ => ?_
  exact stlinkTestUnitReady_seen.bind fun _ => Drv.Keeps.pure _

theorem stlinkInitialize_seen : Drv.Keeps StlinkState.seen (stlinkInitialize d env) := by
  refine (stlinkCmd_seen ⟨by decide, by decide⟩ _ _ _).bind fun _ => ?_
  refine (stlinkCmd_seen ⟨by decide, by decide⟩ _ _ _).bind fun _ => ?_
  refine (stlinkCmd_seen ⟨by decide, by decide⟩ _ _ _).bind fun _ => ?_
  exact (stlinkCmd_seen ⟨by decide, by decide⟩ _ _ _).bind fun _ => Drv.Keeps.pure _

/-- No command of the opening reaches the target. -/
theorem stlinkOpen_seen (hello : StlinkHello) :
    Drv.Keeps StlinkState.seen (stlinkOpen d env hello) := by
  refine (stlinkStatus_seen hello).bind fun status => ?_
  cases StlinkStatus.of status with
  | ok => exact stlinkInitialize_seen.bind fun _ => Drv.Keeps.pure _
  | initialized => exact Drv.Keeps.pure _
  | busy => exact Drv.Keeps.pure _
  | unknown status => exact Drv.Keeps.pure _

/-! ## Where nothing fails -/

/-- The programmer says that it is ready or can be made so. -/
def StlinkHello.Ready (hello : StlinkHello) : Prop :=
  hello.status.length = 2 ∧
    (unpackInt16Le hello.status = 0x0000 ∨ unpackInt16Le hello.status = 0x0003)

end Results

end Stm8Flash
