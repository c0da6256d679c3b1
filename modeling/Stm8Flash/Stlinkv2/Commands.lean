import Stm8Flash.Stlinkv2.Model

/-! # The ST-Link V2 commands

One specification for each command: what `swim_write_byte`, `swim_read_byte`, the block write
and `stlink2_swim_read_range` do to the target, through the packets that carry them. They stop
only where something fails.
-/

namespace Stm8Flash

open Hex Word

/-- No transfer is short, every SWIM command ends with an OK status, and `read_buf_size` is a
16-bit number that is not 0. -/
structure Stlinkv2Env.NoFailure (env : Stlinkv2Env) : Prop where
  transferred : ∀ k, env.transferred k = true
  polled : ∀ k, swimPoll (env.stackStatus k) 0 (env.replies k) = .ok ()
  readBufSize_pos : 1 ≤ env.readBufSize
  readBufSize_lt : env.readBufSize < 65536

/-! ## Packets -/

section Packets

variable (cmd : Byte) (h l a₃ a₂ a₁ a₀ : Nat) (data : List Byte)

/-- The arguments of a memory command come first in its packet, then as much of the data as
fits. -/
theorem stlink2Packet_mem :
    stlink2Packet (swimMemArgs cmd h l a₃ a₂ a₁ a₀) data =
      swimMemArgs cmd h l a₃ a₂ a₁ a₀ ++ (data.take 8 ++ List.replicate (8 - data.length) 0) := by
  unfold stlink2Packet
  have hlen : (swimMemArgs cmd h l a₃ a₂ a₁ a₀).length = 8 := rfl
  simp only [hlen, List.append_assoc, List.length_append, List.length_take]
  congr 3
  omega

/-- The data arrive as they were sent. -/
theorem stlink2Packet_data :
    ((stlink2Packet (swimMemArgs cmd h l a₃ a₂ a₁ a₀) data).drop 8 ++
      stlink2Rest (swimMemArgs cmd h l a₃ a₂ a₁ a₀) data).take data.length = data := by
  have hdrop : (stlink2Packet (swimMemArgs cmd h l a₃ a₂ a₁ a₀) data).drop 8 =
      data.take 8 ++ List.replicate (8 - data.length) 0 := by
    rw [stlink2Packet_mem]
    rfl
  have hrest : stlink2Rest (swimMemArgs cmd h l a₃ a₂ a₁ a₀) data = data.drop 8 := rfl
  rw [hdrop, hrest]
  -- eight bytes go with the packet, the others follow it
  rcases Nat.le_total 8 data.length with hlong | hshort
  · rw [Nat.sub_eq_zero_of_le hlong, List.replicate_zero, List.append_nil,
      List.take_append_drop, List.take_length]
  · rw [List.drop_eq_nil_of_le hshort, List.append_nil, List.take_of_length_le hshort,
      List.take_left]

theorem swimLength_mem (hh : h < 256) (hl : l < 256) :
    swimLength (stlink2Packet (swimMemArgs cmd h l a₃ a₂ a₁ a₀) data) = be16 h l := by
  rw [stlink2Packet_mem]
  show be16 (UInt8.ofNat h).toNat (UInt8.ofNat l).toNat = be16 h l
  rw [ofNat_toNat_of_lt hh, ofNat_toNat_of_lt hl]

theorem swimAddr_mem (h₃ : a₃ < 256) (h₂ : a₂ < 256) (h₁ : a₁ < 256) (h₀ : a₀ < 256) :
    swimAddr (stlink2Packet (swimMemArgs cmd h l a₃ a₂ a₁ a₀) data) = be32 a₃ a₂ a₁ a₀ := by
  rw [stlink2Packet_mem]
  show be32 (UInt8.ofNat a₃).toNat (UInt8.ofNat a₂).toNat (UInt8.ofNat a₁).toNat
    (UInt8.ofNat a₀).toNat = be32 a₃ a₂ a₁ a₀
  rw [ofNat_toNat_of_lt h₃, ofNat_toNat_of_lt h₂, ofNat_toNat_of_lt h₁, ofNat_toNat_of_lt h₀]

theorem stlink2Packet_opcode :
    (stlink2Packet (swimMemArgs cmd h l a₃ a₂ a₁ a₀) data).getD 0 0 = 0xf4 ∧
      (stlink2Packet (swimMemArgs cmd h l a₃ a₂ a₁ a₀) data).getD 1 0 = cmd := by
  rw [stlink2Packet_mem]
  exact ⟨rfl, rfl⟩

end Packets

/-! ## Commands -/

section Specs

variable {d : Stm8Device} {env : Stlinkv2Env} {t : Target} {rb : List Byte}

/-- The state of the programmer and the target, without the counts. -/
def Stlinkv2State.At (t : Target) (rb : List Byte) (s : Stlinkv2State) : Prop :=
  s.target = t ∧ s.readbuf = rb

/-- A program that stops only where something fails does not stop when nothing fails. -/
theorem Stlinkv2Env.NoFailure.total (hok : env.NoFailure) {α : Type} {P : Stlinkv2State → Prop}
    {prog : Stlinkv2 α} {Q : α → Stlinkv2State → Prop}
    (h : Drv.Triple P prog Q fun _ _ => ¬env.NoFailure) :
    Drv.Triple P prog Q fun _ _ => False :=
  h.conseq (fun _ hs => hs) (fun _ _ hs => hs) fun _ _ hfails => hfails hok

theorem stlink2MsgTransfer_spec :
    Drv.Triple (Stlinkv2State.At t rb) (stlink2MsgTransfer env)
      (fun _ => Stlinkv2State.At t rb) (fun _ _ => ¬env.NoFailure) := by
  intro s hs
  unfold stlink2MsgTransfer
  rw [Drv.state_bind_run, Drv.change_bind_run]
  by_cases hmoved : env.transferred s.transfers = true
  · rw [if_pos hmoved]
    exact hs
  · rw [if_neg hmoved]
    exact fun hok => hmoved (hok.transferred _)

theorem stlink2MsgSend_spec (data : List Byte) :
    Drv.Triple (Stlinkv2State.At t rb) (stlink2MsgSend env data)
      (fun _ => Stlinkv2State.At t rb) (fun _ _ => ¬env.NoFailure) :=
  (stlink2MsgTransfer_spec).bind fun _ => Drv.Triple.change fun _ hs => hs

theorem stlink2CmdInternal_spec (args buf : List Byte) :
    Drv.Triple (Stlinkv2State.At t rb) (stlink2CmdInternal d env args buf)
      (fun _ s => ∃ s', Stlinkv2State.At t rb s' ∧
        s = stlink2Receive d env.hw (stlink2Packet args buf) (stlink2Rest args buf) s')
      (fun _ _ => ¬env.NoFailure) := by
  refine (stlink2MsgSend_spec _).bind fun _ => ?_
  refine Drv.Triple.bind (Q := fun _ => Stlinkv2State.At t rb) ?_ fun _ => ?_
  · unfold stlink2SendRest
    exact Drv.Triple.ite (fun _ => Drv.Triple.pure fun _ hs => hs)
      fun _ => stlink2MsgSend_spec _
  · exact Drv.Triple.change fun s hs => ⟨s, hs, rfl⟩

theorem swimCmdInternal_spec (args buf : List Byte) :
    Drv.Triple (Stlinkv2State.At t rb) (swimCmdInternal d env args buf)
      (fun _ s => ∃ s', Stlinkv2State.At t rb s' ∧ Stlinkv2State.At
        (stlink2Receive d env.hw (stlink2Packet args buf) (stlink2Rest args buf) s').target
        (stlink2Receive d env.hw (stlink2Packet args buf) (stlink2Rest args buf) s').readbuf s)
      (fun _ _ => ¬env.NoFailure) := by
  apply (stlink2CmdInternal_spec args buf).bind
  intro _ s hs
  rcases hs with ⟨s', hs', rfl⟩
  rw [Drv.state_bind_run, Drv.change_bind_run]
  rcases hpoll : swimPoll (env.stackStatus _) 0 (env.replies _) with e | _
  · -- the status is an error
    exact fun hok => by cases hpoll.symm.trans (hok.polled _)
  · exact ⟨s', hs', rfl, rfl⟩

/-- `SWIM_WRITEMEM` writes its data. -/
theorem swimCmdInternal_write {h l a₃ a₂ a₁ a₀ addr : Nat}
    {data : List Byte} (hh : h < 256) (hl : l < 256) (hlen : be16 h l = data.length)
    (h₃ : a₃ < 256) (h₂ : a₂ < 256) (h₁ : a₁ < 256) (h₀ : a₀ < 256)
    (haddr : be32 a₃ a₂ a₁ a₀ = addr) :
    Drv.Triple (Stlinkv2State.At t rb)
      (swimCmdInternal d env (swimMemArgs 0x0a h l a₃ a₂ a₁ a₀) data)
      (fun _ => Stlinkv2State.At (t.write d addr data) rb) (fun _ _ => ¬env.NoFailure) := by
  apply (swimCmdInternal_spec _ _).post
  intro _ s hs
  rcases hs with ⟨s', ⟨ht, hr⟩, hat⟩
  have hop := stlink2Packet_opcode 0x0a h l a₃ a₂ a₁ a₀ data
  unfold stlink2Receive at hat
  rw [if_pos hop, swimAddr_mem _ _ _ _ _ _ _ _ h₃ h₂ h₁ h₀, haddr,
    swimLength_mem _ _ _ _ _ _ _ _ hh hl, hlen, stlink2Packet_data, ht] at hat
  exact ⟨hat.1, hat.2.trans hr⟩

/-- `SWIM_READMEM` fills the programmer's buffer. -/
theorem swimCmdInternal_read {h l a₃ a₂ a₁ a₀ n addr : Nat}
    (hh : h < 256) (hl : l < 256) (hlen : be16 h l = n)
    (h₃ : a₃ < 256) (h₂ : a₂ < 256) (h₁ : a₁ < 256) (h₀ : a₀ < 256)
    (haddr : be32 a₃ a₂ a₁ a₀ = addr) :
    Drv.Triple (Stlinkv2State.At t rb)
      (swimCmdInternal d env (swimMemArgs 0x0b h l a₃ a₂ a₁ a₀) [])
      (fun _ => Stlinkv2State.At (t.afterRead d addr n) (t.read d env.hw addr n))
      (fun _ _ => ¬env.NoFailure) := by
  apply (swimCmdInternal_spec _ _).post
  intro _ s hs
  rcases hs with ⟨s', ⟨ht, hr⟩, hat⟩
  have hop := stlink2Packet_opcode 0x0b h l a₃ a₂ a₁ a₀ []
  unfold stlink2Receive at hat
  rw [if_neg (by rw [hop.2]; exact fun hno => absurd hno.2 (by decide)), if_pos hop,
    swimAddr_mem _ _ _ _ _ _ _ _ h₃ h₂ h₁ h₀, haddr, swimLength_mem _ _ _ _ _ _ _ _ hh hl,
    hlen, ht] at hat
  exact hat

/-- `SWIM_READBUF` changes nothing. -/
theorem stlink2_readbuf :
    Drv.Triple (Stlinkv2State.At t rb) (stlink2CmdInternal d env [0xf4, 0x0c] [])
      (fun _ => Stlinkv2State.At t rb) (fun _ _ => ¬env.NoFailure) := by
  apply (stlink2CmdInternal_spec _ _).post
  intro _ s hs
  rcases hs with ⟨s', hat, hs⟩
  unfold stlink2Receive at hs
  rw [if_neg (by decide), if_neg (by decide)] at hs
  rw [hs]
  exact hat

theorem stlink2MsgRecv_spec {n : Nat} (hn : rb.length = n) :
    Drv.Triple (Stlinkv2State.At t rb) (stlink2MsgRecv env n)
      (fun bs s => bs = rb ∧ Stlinkv2State.At t rb s) (fun _ _ => ¬env.NoFailure) := by
  unfold stlink2MsgRecv
  refine Drv.Triple.ite (fun hzero => Drv.Triple.pure fun s hs => ⟨?_, hs⟩) fun _ => ?_
  · exact (List.eq_nil_of_length_eq_zero (hn.trans hzero)).symm
  · refine (stlink2MsgTransfer_spec).bind fun _ s hs => ?_
    have hlen : ¬s.readbuf.length < n := by
      rw [hs.2, hn]
      exact Nat.lt_irrefl n
    rw [Drv.state_bind_run, if_neg hlen]
    exact ⟨by rw [hs.2, ← hn, List.take_length], hs⟩

/-! ## Bytes -/

theorem swimWriteByte_spec (hb : 1 < d.flashBlockSize) {a : Nat}
    (ha : a < 16777216) (v : Byte) :
    Drv.Triple (fun s => s.target = t) (swimWriteByte d env v a)
      (fun _ s => s.target = t.poke d a v) (fun _ _ => ¬env.NoFailure) := by
  intro s hs
  have hwrite := @swimCmdInternal_write d env t s.readbuf 0x00 0x01 _ _ _ _ _ [v]
    (by decide) (by decide) rfl (show 0x00 < 256 by decide) (EX_lt a) (HI_lt a) (LO_lt a)
    (be32_bytes24 ha)
  have hrun := hwrite s ⟨hs, rfl⟩
  have hsame : swimWriteByte d env v a = swimCmdInternal d env
      (swimMemArgs 0x0a 0x00 0x01 0x00 (EX a) (HI a) (LO a)) [v] := rfl
  rw [hsame]
  rcases hres : swimCmdInternal d env (swimMemArgs 0x0a 0x00 0x01 0x00 (EX a) (HI a) (LO a)) [v] s
    with ⟨e | u, s'⟩
  · rw [hres] at hrun
    exact hrun
  · rw [hres] at hrun
    exact hrun.1.trans (Target.write_one hb)

theorem swimReadByte_spec {a : Nat} (ha : a < 16777216) :
    Drv.Triple (fun s => s.target = t) (swimReadByte d env a)
      (fun v s => v = (t.peek d env.hw a).toNat ∧ s.target = t.afterRead d a 1)
      (fun _ _ => ¬env.NoFailure) := by
  intro s hs
  have hread : Drv.Triple (Stlinkv2State.At t s.readbuf) (swimReadByte d env a)
      (fun v s => v = (t.peek d env.hw a).toNat ∧ s.target = t.afterRead d a 1)
      (fun _ _ => ¬env.NoFailure) := by
    -- `SWIM_READMEM`, then `SWIM_READBUF` and the bytes it announces
    refine (swimCmdInternal_read (by decide) (by decide) rfl (by decide) (EX_lt a) (HI_lt a)
      (LO_lt a) (be32_bytes24 ha)).bind fun _ => ?_
    apply (stlink2_readbuf).bind
    intro _
    apply (stlink2MsgRecv_spec (by simp [Target.read, be16])).bind
    intro bs
    exact Drv.Triple.pure fun s hs => ⟨by rw [hs.1]; rfl, hs.2.1⟩
  exact hread s ⟨hs, rfl⟩

end Specs

end Stm8Flash
