import Stm8Flash.Espstlink.Library

/-! # The ESP back end

The functions of `espstlink.c` over the commands of `libespstlink.c`. A command fails when
`error_check` does not accept its answer; which ones do is for the environment to say, and so is
whether the programmer has carried a failed command out.
-/

namespace Stm8Flash

open Hex Word

/-- What the environment decides. -/
structure EspstlinkEnv where
  hw : Hardware
  /-- `error_check` accepts the answer to the `k`-th command -/
  answered : Nat → Bool
  /-- the programmer carries the `k`-th command out although its answer is not accepted -/
  carriedOut : Nat → Bool
  /-- `current` before the pre-read -/
  stackCurrent : Nat → Byte

structure EspstlinkState where
  target : Target
  commands : Nat
  /-- the commands with the bytes after them, and whether the answer was accepted -/
  sent : List (List Byte × Bool)

namespace EspstlinkState

/-- One more command, with the bytes `p` on the line. -/
def command (s : EspstlinkState) (p : List Byte) (ok : Bool) (t : Target) : EspstlinkState :=
  { target := t, commands := s.commands + 1, sent := s.sent ++ [(p, ok)] }

variable (s : EspstlinkState) (p : List Byte) (ok : Bool) (t : Target)

@[simp] theorem command_target : (s.command p ok t).target = t := rfl
@[simp] theorem command_commands : (s.command p ok t).commands = s.commands + 1 := rfl
@[simp] theorem command_sent : (s.command p ok t).sent = s.sent ++ [(p, ok)] := rfl

end EspstlinkState

/-- A run of the functions of this back end. -/
abbrev Espstlink (α : Type) : Type := Drv EspstlinkState EspstlinkError α

/-! ## Commands -/

/-- `uint8_t cmd[] = {…, size, addr >> 16, addr >> 8, addr}` -/
def espstlinkCmd (cmd : Byte) (size addr : Nat) : List Byte :=
  [cmd, UInt8.ofNat size, UInt8.ofNat (addr >>> 16), UInt8.ofNat (addr >>> 8), UInt8.ofNat addr]

/-- The size that a command carries. -/
def espstlinkSize (p : List Byte) : Nat := (p.getD 1 0).toNat

/-- The address that a command carries. -/
def espstlinkAddr (p : List Byte) : Nat :=
  be32 0 (p.getD 2 0).toNat (p.getD 3 0).toNat (p.getD 4 0).toNat

/-- A command that writes more than one byte. -/
def isEspBlockWrite (p : List Byte) : Bool := p.getD 0 0 == 2 && p.getD 1 0 != 1

/-- The block writes whose answers were not accepted. -/
def EspstlinkState.failedBlocks (s : EspstlinkState) : List (List Byte × Bool) :=
  s.sent.filter fun c => isEspBlockWrite c.1 && !c.2

/-- The programmer carries out the command `p`; `data` are the bytes that follow it. -/
def espstlinkReceive (d : Stm8Device) (p data : List Byte) (t : Target) : Target :=
  if p.getD 0 0 = 2 then t.write d (espstlinkAddr p) (data.take (espstlinkSize p))
  else if p.getD 0 0 = 1 then t.afterRead d (espstlinkAddr p) (espstlinkSize p)
  else t

section Commands

variable (d : Stm8Device) (env : EspstlinkEnv)

/-- The command `p` with the bytes `data` after it, up to `error_check`: the state of the
target when the command arrives, if its answer is accepted. -/
def espstlinkCommand (p data : List Byte) : Espstlink (Option Target) := do
  let s ← Drv.state
  Drv.change fun s => s.command (p ++ data) (env.answered s.commands)
    (if env.answered s.commands ∨ env.carriedOut s.commands then
      espstlinkReceive d p data s.target
    else s.target)
  pure (if env.answered s.commands then some s.target else none)

/-- `espstlink_swim_read`: the bytes that go to `buffer`, if it returns true. The answer has the
size and the address before them. -/
def espstlinkSwimRead (addr size : Nat) : Espstlink (Option (List Byte)) := do
  let target ← espstlinkCommand d env (espstlinkCmd 1 size addr) []
  pure (target.map fun t =>
    t.read d env.hw (espstlinkAddr (espstlinkCmd 1 size addr))
      (espstlinkSize (espstlinkCmd 1 size addr)))

/-- `espstlink_swim_write`: `cmd[1]` bytes of `buffer` follow the command. -/
def espstlinkSwimWrite (buffer : List Byte) (addr size : Nat) : Espstlink Bool := do
  let target ← espstlinkCommand d env (espstlinkCmd 2 size addr)
    (buffer.take (espstlinkSize (espstlinkCmd 2 size addr)))
  pure target.isSome

/-- The memory of the target through commands. -/
def espSwim : EspSwim EspstlinkState EspstlinkError where
  swimRead := espstlinkSwimRead d env
  swimWrite := espstlinkSwimWrite d env

@[simp] theorem espSwim_swimRead : (espSwim d env).swimRead = espstlinkSwimRead d env := rfl

@[simp] theorem espSwim_swimWrite : (espSwim d env).swimWrite = espstlinkSwimWrite d env := rfl

/-- A command that nothing follows. -/
def espCommand (p : List Byte) : Espstlink Bool := do
  let target ← espstlinkCommand d env p []
  pure target.isSome

/-- `espstlink_swim_read_range` -/
def espstlinkSwimReadRange (buffer : Nat → Byte) (start length : Nat) :
    Espstlink (Int × (Nat → Byte)) :=
  (espSwim d env).readRange buffer start length

/-- `espstlink_swim_write_range` -/
def espstlinkSwimWriteRange (buffer : Nat → Byte) (start length : Nat) (memtype : Memtype) :
    Espstlink Int :=
  (espSwim d env).writeRange d env.stackCurrent buffer start length memtype

/-- `espstlink_srst` -/
def espstlinkSrst : Espstlink Unit := (espSwim d env).srst (espCommand d env [0])

end Commands

end Stm8Flash
