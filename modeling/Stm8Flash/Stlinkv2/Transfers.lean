import Stm8Flash.Stlinkv2.Commands

/-! # The transfers of an ST-Link V2 command

`stlink2_cmd_internal` cuts a command into a packet of 16 bytes and, where the payload does not
fit, one more transfer. Nothing is lost on the way (`stlink2CmdInternal_frames`): a receiver that
goes by the length and the address of a `SWIM_WRITEMEM` gets back what `swim_write_byte` and the
block write have sent.
-/

namespace Stm8Flash

open Hex Word

/-! ## The packet -/

/-- `for(i = 0; i < length; i++) cmd_buf[i] = va_arg(ap, int)`, from `i` on. -/
def stlink2StoreArgs (cmdBuf : List Byte) (i : Nat) : List Byte → List Byte
  | [] => cmdBuf
  | arg :: args => stlink2StoreArgs (cmdBuf.set i arg) (i + 1) args

/-- `while (buf_len > 0 && i < sizeof(cmd_buf))`: `cmd_buf` and what is left of `buf`. -/
def stlink2Fill (cmdBuf : List Byte) (i : Nat) : List Byte → List Byte × List Byte
  | [] => (cmdBuf, [])
  | b :: buf => if i < 16 then stlink2Fill (cmdBuf.set i b) (i + 1) buf else (cmdBuf, b :: buf)

/-- The command buffer when `used` has been stored and the rest is as `memset` has left it. -/
def stlink2Pad (used : List Byte) : List Byte := used ++ List.replicate (16 - used.length) 0

theorem stlink2Pad_set {used : List Byte} (h : used.length < 16) (b : Byte) :
    (stlink2Pad used).set used.length b = stlink2Pad (used ++ [b]) := by
  obtain ⟨n, hn⟩ : ∃ n, 16 - used.length = n + 1 := ⟨15 - used.length, by omega⟩
  have hlen : 16 - (used ++ [b]).length = n := by
    rw [List.length_append, List.length_singleton]
    omega
  unfold stlink2Pad
  rw [List.set_append_right _ _ (Nat.le_refl _), Nat.sub_self, hn, hlen, List.replicate_succ,
    List.set_cons_zero, List.append_assoc, List.singleton_append]

theorem stlink2StoreArgs_eq {used args : List Byte} (h : used.length + args.length ≤ 16) :
    stlink2StoreArgs (stlink2Pad used) used.length args = stlink2Pad (used ++ args) := by
  induction args generalizing used with
  | nil =>
    rw [List.append_nil]
    rfl
  | cons arg args ih =>
    rw [List.length_cons] at h
    have hrest := @ih (used ++ [arg]) (by rw [List.length_append, List.length_singleton]; omega)
    rw [List.length_append, List.length_singleton, List.append_assoc] at hrest
    unfold stlink2StoreArgs
    rw [stlink2Pad_set (by omega)]
    exact hrest

/-- The payload fills the packet up; what does not fit is left. -/
theorem stlink2Fill_eq {used : List Byte} (h : used.length ≤ 16) (buf : List Byte) :
    stlink2Fill (stlink2Pad used) used.length buf =
      (stlink2Pad (used ++ buf.take (16 - used.length)), buf.drop (16 - used.length)) := by
  induction buf generalizing used with
  | nil =>
    rw [List.take_nil, List.drop_nil, List.append_nil]
    rfl
  | cons b buf ih =>
    unfold stlink2Fill
    by_cases hlt : used.length < 16
    · obtain ⟨n, hn⟩ : ∃ n, 16 - used.length = n + 1 := ⟨15 - used.length, by omega⟩
      have hn' : 16 - (used.length + 1) = n := by omega
      have hrest := @ih (used ++ [b]) (by rw [List.length_append, List.length_singleton]; omega)
      rw [List.length_append, List.length_singleton, hn', List.append_assoc] at hrest
      rw [if_pos hlt, stlink2Pad_set hlt, hn, List.take_succ_cons, List.drop_succ_cons]
      exact hrest
    · -- the packet is full
      have hzero : 16 - used.length = 0 := by omega
      rw [if_neg hlt, hzero, List.take_zero, List.drop_zero, List.append_nil]

/-- The two loops make the packet and leave the rest. -/
theorem stlink2Fill_packet {args : List Byte} (h : args.length ≤ 16) (buf : List Byte) :
    stlink2Fill (stlink2StoreArgs (List.replicate 16 0) 0 args) args.length buf =
      (stlink2Packet args buf, stlink2Rest args buf) := by
  have hargs : stlink2StoreArgs (List.replicate 16 0) 0 args = stlink2Pad args :=
    @stlink2StoreArgs_eq [] args (by rw [List.length_nil]; omega)
  rw [hargs]
  exact stlink2Fill_eq h buf

theorem stlink2Packet_length {args : List Byte} (h : args.length ≤ 16) (buf : List Byte) :
    (stlink2Packet args buf).length = 16 := by
  unfold stlink2Packet
  simp only [List.length_append, List.length_take, List.length_replicate]
  omega

/-! ## The transfers -/

/-- One transfer with `buf`, if there is something in it. -/
def transferOf (buf : List Byte) : List (List Byte) := if buf = [] then [] else [buf]

theorem transferOf_flatten (buf : List Byte) : (transferOf buf).flatten = buf := by
  unfold transferOf
  by_cases hnil : buf = []
  · rw [if_pos hnil, hnil, List.flatten_nil]
  · rw [if_neg hnil, List.flatten_singleton]

/-- What `stlink2_cmd_internal` sends. -/
def stlink2Transfers (args buf : List Byte) : List (List Byte) :=
  stlink2Packet args buf :: transferOf (stlink2Rest args buf)

section Emits

variable {d : Stm8Device} {env : Stlinkv2Env}

theorem stlink2MsgTransfer_sent : Drv.Keeps Stlinkv2State.sent (stlink2MsgTransfer env) := by
  refine Drv.Keeps.state.bind fun s => Drv.Keeps.bind ?_ fun _ => ?_
  · exact Drv.Keeps.change fun _ => rfl
  · exact Drv.Keeps.ite (Drv.Keeps.pure ()) (Drv.Keeps.stop _)

theorem stlink2MsgSend_sent (data : List Byte) :
    Drv.Emits Stlinkv2State.sent (stlink2MsgSend env data) [data] :=
  stlink2MsgTransfer_sent.emits.bind_right fun _ => Drv.Emits.change fun _ => rfl

theorem stlink2MsgRecv_sent (n : Nat) : Drv.Keeps Stlinkv2State.sent (stlink2MsgRecv env n) := by
  refine Drv.Keeps.ite (Drv.Keeps.pure _) (stlink2MsgTransfer_sent.bind fun _ => ?_)
  exact Drv.Keeps.state.bind fun _ => Drv.Keeps.ite (Drv.Keeps.stop _) (Drv.Keeps.pure _)

/-- What the target does with a packet sends nothing. -/
theorem stlink2Receive_sent (hw : Hardware) (p rest : List Byte) (s : Stlinkv2State) :
    (stlink2Receive d hw p rest s).sent = s.sent := by
  unfold stlink2Receive
  split
  · rfl
  · split <;> rfl

theorem stlink2CmdInternal_sent (args buf : List Byte) :
    Drv.Emits Stlinkv2State.sent (stlink2CmdInternal d env args buf) (stlink2Transfers args buf) := by
  refine (stlink2MsgSend_sent _).bind fun _ => ?_
  refine Drv.Emits.bind_left ?_ fun _ => ?_
  · unfold stlink2SendRest
    by_cases hrest : stlink2Rest args buf = []
    · rw [if_pos hrest, if_pos hrest]
      exact Drv.Emits.pure ()
    · rw [if_neg hrest, if_neg hrest]
      exact stlink2MsgSend_sent _
  · exact (Drv.Keeps.change fun s => stlink2Receive_sent env.hw _ _ s).emits

theorem swimCmdInternal_sent (args buf : List Byte) :
    Drv.Emits Stlinkv2State.sent (swimCmdInternal d env args buf) (stlink2Transfers args buf) := by
  refine (stlink2CmdInternal_sent args buf).bind_left fun _ => Drv.Keeps.emits ?_
  refine Drv.Keeps.state.bind fun s => Drv.Keeps.bind (Drv.Keeps.change fun _ => rfl) fun _ => ?_
  rcases swimPoll (env.stackStatus s.swimCmds) 0 (env.replies s.swimCmds) with e | _
  · exact Drv.Keeps.stop e
  · exact Drv.Keeps.pure ()

end Emits

/-! ## The receiver -/

/-- A receiver of `SWIM_WRITEMEM`: the address and as many bytes as the length says, from the
packet and from the transfers behind it. -/
def swimWriteMem : List (List Byte) → Option (Nat × List Byte)
  | [] => none
  | p :: rest =>
    if p.length = 16 ∧ p.getD 0 0 = 0xf4 ∧ p.getD 1 0 = 0x0a then
      some (swimAddr p, (p.drop 8 ++ rest.flatten).take (swimLength p))
    else none

/-- A `SWIM_WRITEMEM` comes through as it was sent. -/
theorem swimWriteMem_transfers {h l a₃ a₂ a₁ a₀ addr : Nat} {data : List Byte} (hh : h < 256)
    (hl : l < 256) (hlen : be16 h l = data.length) (h₃ : a₃ < 256) (h₂ : a₂ < 256) (h₁ : a₁ < 256)
    (h₀ : a₀ < 256) (haddr : be32 a₃ a₂ a₁ a₀ = addr) :
    swimWriteMem (stlink2Transfers (swimMemArgs 0x0a h l a₃ a₂ a₁ a₀) data) = some (addr, data) := by
  have hhead : (stlink2Packet (swimMemArgs 0x0a h l a₃ a₂ a₁ a₀) data).length = 16 ∧
      (stlink2Packet (swimMemArgs 0x0a h l a₃ a₂ a₁ a₀) data).getD 0 0 = 0xf4 ∧
      (stlink2Packet (swimMemArgs 0x0a h l a₃ a₂ a₁ a₀) data).getD 1 0 = 0x0a :=
    ⟨stlink2Packet_length (Nat.le_of_ble_eq_true rfl) data, stlink2Packet_opcode _ _ _ _ _ _ _ _⟩
  unfold stlink2Transfers swimWriteMem
  simp only
  rw [if_pos hhead, transferOf_flatten, swimAddr_mem _ _ _ _ _ _ _ _ h₃ h₂ h₁ h₀, haddr, swimLength_mem _ _ _ _ _ _ _ _ hh hl,
    hlen, stlink2Packet_data]

/-! ## Framing -/

theorem stlink2CmdInternal_returns {env : Stlinkv2Env} (h : ∀ k, env.transferred k = true)
    (d : Stm8Device) (args buf : List Byte) : Drv.Returns (stlink2CmdInternal d env args buf) := by
  have hsend (data : List Byte) : Drv.Returns (stlink2MsgSend env data) := by
    refine Drv.Returns.bind (fun s => ?_) fun _ => Drv.Returns.change _
    unfold stlink2MsgTransfer
    rw [Drv.state_bind_run, Drv.change_bind_run, if_pos (h _)]
    exact ⟨(), _, rfl⟩
  refine (hsend _).bind fun _ => Drv.Returns.bind ?_ fun _ => Drv.Returns.change _
  exact Drv.Returns.ite (fun _ => Drv.Returns.pure ()) fun _ => hsend _

/-- Of a command with at most 16 bytes of arguments one packet is sent, with the arguments, as
much of the payload as fits and zeros, and then, if there is more of the payload, one transfer
with the rest. Read by its length and its address, what `swim_write_byte` and the block write
send is the address and the data that they are given. -/
theorem stlink2CmdInternal_frames (d : Stm8Device) (env : Stlinkv2Env) (s : Stlinkv2State) :
    (∀ args buf : List Byte, args.length ≤ 16 → ∃ packet rest,
      stlink2Fill (stlink2StoreArgs (List.replicate 16 0) 0 args) args.length buf =
        (packet, rest) ∧
      packet = args ++ buf.take (16 - args.length) ++
        List.replicate (16 - args.length - buf.length) 0 ∧ packet.length = 16 ∧
      rest = buf.drop (16 - args.length) ∧
      ((∀ k, env.transferred k = true) → ∃ t, stlink2CmdInternal d env args buf s = (.ok (), t)) ∧
      ∀ t, stlink2CmdInternal d env args buf s = (.ok (), t) →
        t.sent = s.sent ++ packet :: if rest = [] then [] else [rest]) ∧
    (∀ byte start t, start < 16777216 → swimWriteByte d env byte start s = (.ok (), t) →
      ∃ transfers, t.sent = s.sent ++ transfers ∧
        swimWriteMem transfers = some (start, [byte])) ∧
    ∀ buffer start i t, 1 ≤ d.flashBlockSize → d.flashBlockSize ≤ 65535 →
      u32 (start + i) < 16777216 → stlink2SendBlock d env buffer start i s = (.ok (), t) →
      ∃ transfers, t.sent = s.sent ++ transfers ∧
        swimWriteMem transfers =
          some (u32 (start + i), Image.slice buffer i d.flashBlockSize) := by
  refine ⟨?_, ?_, ?_⟩
  · intro args buf hargs
    refine ⟨stlink2Packet args buf, stlink2Rest args buf, stlink2Fill_packet hargs buf, ?_,
      stlink2Packet_length hargs buf, rfl, fun h => ?_, fun t hrun => ?_⟩
    · -- as many zeros as are missing from the 16 bytes
      unfold stlink2Packet
      simp only [List.length_append, List.length_take]
      congr 2
      omega
    · obtain ⟨_, t, hrun⟩ := stlink2CmdInternal_returns h d args buf s
      exact ⟨t, hrun⟩
    · exact stlink2CmdInternal_sent args buf s () t hrun
  · intro byte start t hstart hrun
    refine ⟨_, swimCmdInternal_sent _ _ s () t hrun, ?_⟩
    -- the byte is an argument here, which makes the same packet
    exact @swimWriteMem_transfers 0x00 0x01 _ _ _ _ _ [byte] (by decide) (by decide) rfl
      (show 0x00 < 256 by decide) (EX_lt start) (HI_lt start) (LO_lt start) (be32_bytes24 hstart)
  · intro buffer start i t _ hblock haddr hrun
    refine ⟨_, swimCmdInternal_sent _ _ s () t hrun, ?_⟩
    have hlen : be16 (HI d.flashBlockSize) (LO d.flashBlockSize) =
        (Image.slice buffer i d.flashBlockSize).length := by
      rw [Image.slice_length]
      exact be16_bytes (by omega)
    exact swimWriteMem_transfers (HI_lt _) (LO_lt _) hlen (EH_lt _) (EX_lt _) (HI_lt _) (LO_lt _)
      (be32_bytes (by omega))

/-- A byte and a block of flash, where every transfer is complete. -/
theorem stlink2CmdInternal_frames_flash :
    (∃ t transfers, swimWriteByte stm8Devices[0]
        ⟨.ready, 6144, fun _ => true, fun _ => [(0, 0, 0, 0)], fun _ => (0, 0, 0, 0), fun _ => 0⟩
        0x55 0x8000 ⟨.idle fun _ => 0, [], 0, 0, []⟩ = (.ok (), t) ∧ t.sent = [] ++ transfers ∧
      swimWriteMem transfers = some (0x8000, [0x55])) ∧
    ∃ t transfers, stlink2SendBlock stm8Devices[0]
        ⟨.ready, 6144, fun _ => true, fun _ => [(0, 0, 0, 0)], fun _ => (0, 0, 0, 0), fun _ => 0⟩
        (fun _ => 0x55) 0x8000 128 ⟨.idle fun _ => 0, [], 0, 0, []⟩ = (.ok (), t) ∧
      t.sent = [] ++ transfers ∧
      swimWriteMem transfers = some (0x8080, Image.slice (fun _ => 0x55) 128 128) := by
  constructor
  · obtain ⟨_, t, hrun, -⟩ := Drv.run_of_returnsWith (p := fun _ _ => true)
      (m := swimWriteByte stm8Devices[0] ⟨.ready, 6144, fun _ => true, fun _ => [(0, 0, 0, 0)],
        fun _ => (0, 0, 0, 0), fun _ => 0⟩ 0x55 0x8000)
      (s := ⟨.idle fun _ => 0, [], 0, 0, []⟩) (by decide +kernel)
    obtain ⟨transfers, hsent, hback⟩ := (stlink2CmdInternal_frames _ _ _).2.1 _ _ _
      (by decide) hrun
    exact ⟨t, transfers, hrun, hsent, hback⟩
  · obtain ⟨_, t, hrun, -⟩ := Drv.run_of_returnsWith (p := fun _ _ => true)
      (m := stlink2SendBlock stm8Devices[0] ⟨.ready, 6144, fun _ => true,
        fun _ => [(0, 0, 0, 0)], fun _ => (0, 0, 0, 0), fun _ => 0⟩ (fun _ => 0x55) 0x8000 128)
      (s := ⟨.idle fun _ => 0, [], 0, 0, []⟩) (by decide +kernel)
    obtain ⟨transfers, hsent, hback⟩ := (stlink2CmdInternal_frames _ _ _).2.2 _ _ _ _
      (by decide) (by decide) (by decide) hrun
    have hblock : stm8Devices[0].flashBlockSize = 128 := rfl
    rw [hblock, u32_of_lt (by decide)] at hback
    exact ⟨t, transfers, hrun, hsent, hback⟩

end Stm8Flash
