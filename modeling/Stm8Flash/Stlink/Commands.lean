import Stm8Flash.Stlink.Model

/-! # The ST-Link V1 commands

Three facts about each command: it returns when nothing fails (`Drv.Returns`), it does to the
target what it is for, whatever the environment, and it sends no read of memory and no block
write unless it is one (`rangeCmds`).
-/

namespace Stm8Flash

open Hex Word

/-! ## When nothing fails -/

/-- Every transfer is complete, every command is done, and every wait ends. -/
structure StlinkEnv.NoFailure (env : StlinkEnv) : Prop where
  transferred : ∀ k, env.transferred k = true
  missing : ∀ k, env.missing k = 0
  csw : ∀ k, env.csw k = 0
  waits : ∀ k, ∃ reply ∈ env.waits k, reply.length = 4 ∧ unpackInt32Le reply &&& 1 = 0

section Returns

variable {d : Stm8Device} {env : StlinkEnv}

theorem stlinkTransfer_returns (hok : env.NoFailure) : Drv.Returns (stlinkTransfer env) := by
  intro s
  refine ⟨s.transfers, s.countTransfer, ?_⟩
  unfold stlinkTransfer
  rw [Drv.state_bind_run, Drv.change_bind_run, hok.transferred, if_pos rfl]
  rfl

theorem stlinkSendCbw_returns (hok : env.NoFailure) (cbw : ScsiUsbCbw) :
    Drv.Returns (stlinkSendCbw env cbw) :=
  (stlinkTransfer_returns hok).bind fun _ => Drv.Returns.change _

theorem stlinkReadCsw_returns (hok : env.NoFailure) : Drv.Returns (stlinkReadCsw env) :=
  (stlinkTransfer_returns hok).bind fun _ => Drv.Returns.pure _

theorem stlinkDataPhase_returns (hok : env.NoFailure) (data : List Byte) (transferLength : Nat) :
    Drv.Returns (stlinkDataPhase env data transferLength) := by
  refine Drv.Returns.ite (fun _ => ?_) fun _ => Drv.Returns.pure _
  exact (stlinkTransfer_returns hok).bind fun _ => Drv.Returns.pure _

theorem stlinkCmd_returns (hok : env.NoFailure) (transferLength : Nat) (flags : Byte)
    (args data : List Byte) : Drv.Returns (stlinkCmd d env transferLength flags args data) := by
  apply (stlinkSendCbw_returns hok _).bind
  intro _
  apply (Drv.Returns.change _).bind
  intro _
  apply (stlinkDataPhase_returns hok _ _).bind
  intro _
  exact (stlinkReadCsw_returns hok).bind fun _ => Drv.Returns.pure _

theorem stlinkStatusReply_returns (hok : env.NoFailure) (reply : List Byte) :
    Drv.Returns (stlinkStatusReply d env reply) :=
  Drv.Returns.state.bind fun _ => (stlinkCmd_returns hok _ _ _ _).bind fun _ =>
    Drv.Returns.pure _

/-- Data come in as they are. -/
theorem stlinkDataPhase_value (hok : env.NoFailure) {data : List Byte} (hlen : data ≠ []) :
    Drv.Triple (fun _ => True) (stlinkDataPhase env data data.length)
      (fun bytes _ => bytes = data) (fun _ _ => False) := by
  unfold stlinkDataPhase
  rw [if_pos fun h => hlen (List.eq_nil_of_length_eq_zero h)]
  apply ((stlinkTransfer_returns hok).triple True).bind
  intro k
  apply Drv.Triple.pure
  intro _ _
  rw [hok.missing, Nat.sub_zero, List.take_length]

/-- The data phase of a command delivers them. -/
theorem stlinkCmd_value (hok : env.NoFailure) {data : List Byte} (hne : data ≠ [])
    {transferLength : Nat} (hlen : data.length = transferLength) (flags : Byte)
    (args : List Byte) :
    Drv.Triple (fun _ => True) (stlinkCmd d env transferLength flags args data)
      (fun bytes _ => bytes = data) (fun _ _ => False) := by
  subst hlen
  apply ((stlinkSendCbw_returns hok _).triple True).bind
  intro _
  apply ((Drv.Returns.change _).triple True).bind
  intro _
  apply (stlinkDataPhase_value hok hne).bind
  intro bytes
  exact ((stlinkReadCsw_returns hok).triple _).bind fun _ => Drv.Triple.pure fun _ h => h

/-- A whole status reply is understood. -/
theorem stlinkStatusReply_value (hok : env.NoFailure) {reply : List Byte}
    (hlen : reply.length = 4) :
    Drv.Triple (fun _ => True) (stlinkStatusReply d env reply)
      (fun result _ => result = unpackInt32Le reply) (fun _ _ => False) := by
  have hne : reply ≠ [] := by
    intro h
    rw [h] at hlen
    cases hlen
  refine Drv.Triple.bind (Drv.Returns.state.triple True) fun s => ?_
  refine Drv.Triple.bind (Q := fun bytes _ => bytes = reply) ?_ fun bytes => ?_
  · exact stlinkCmd_value hok hne hlen _ _
  · refine Drv.Triple.pure fun _ hbytes => ?_
    rw [hbytes, stlinkBuf, hlen]
    -- four bytes are all of `buf`, whatever was on the stack
    match reply, hlen with
    | [_, _, _, _], _ => rfl

theorem stlinkWaitLoop_returns (hok : env.NoFailure) {replies : List (List Byte)}
    (h : ∃ reply ∈ replies, reply.length = 4 ∧ unpackInt32Le reply &&& 1 = 0) :
    Drv.Returns (stlinkWaitLoop d env replies) := by
  induction replies with
  | nil =>
    rcases h with ⟨reply, hmem, -⟩
    cases hmem
  | cons reply replies ih =>
    rcases h with ⟨ready, hmem, hlen, hready⟩
    intro s
    rcases List.mem_cons.mp hmem with hhead | htail
    · -- this reply ends the wait
      subst hhead
      obtain ⟨a, t, hrun, hval⟩ := (stlinkStatusReply_value hok hlen).returns (s := s) trivial
      refine ⟨a, t, (Drv.bind_ok hrun _).trans ?_⟩
      rw [hval, if_neg (fun hne => hne hready)]
      rfl
    · have hrest := ih ⟨ready, htail, hlen, hready⟩
      exact (stlinkStatusReply_returns hok reply).bind
        (fun _ => Drv.Returns.ite (fun _ => hrest) fun _ => Drv.Returns.pure _) s

theorem stlinkSwimWait_returns (hok : env.NoFailure) : Drv.Returns (stlinkSwimWait d env) :=
  Drv.Returns.state.bind fun _ => stlinkWaitLoop_returns hok (hok.waits _)

theorem stlinkTryByte_returns (hok : env.NoFailure) (byte : Byte) (start : Nat) :
    Drv.Returns (stlinkTryByte d env byte start) :=
  (stlinkCmd_returns hok _ _ _ _).bind fun _ => Drv.Returns.state.bind fun _ =>
    (stlinkCmd_returns hok _ _ _ _).bind fun _ => Drv.Returns.pure _

theorem stlinkWriteByteLoop_returns (hok : env.NoFailure) (byte : Byte) (start tries : Nat) :
    Drv.Returns (stlinkWriteByteLoop d env byte start tries) := by
  induction tries with
  | zero => exact stlinkTryByte_returns hok byte start
  | succ tries ih =>
    apply (stlinkTryByte_returns hok byte start).bind
    intro result
    refine Drv.Returns.ite (fun _ => ?_) fun _ => Drv.Returns.pure _
    exact Drv.Returns.ite (fun _ => ih) fun _ => Drv.Returns.pure _

theorem stlinkSwimWriteByte_returns (hok : env.NoFailure) (byte : Byte) (start : Nat) :
    Drv.Returns (stlinkSwimWriteByte d env byte start) :=
  stlinkWriteByteLoop_returns hok byte start 4

theorem stlinkSwimCmd_returns (hok : env.NoFailure) (args : List Byte) :
    Drv.Returns (stlinkSwimCmd d env args) :=
  (stlinkCmd_returns hok _ _ _ _).bind fun _ =>
    (Drv.Returns.state.bind fun _ => stlinkStatusReply_returns hok _).bind fun _ =>
      Drv.Returns.pure _

theorem stlinkInitSession_returns (hok : env.NoFailure) :
    Drv.Returns (stlinkInitSession d env) := by
  have hcmd := fun args => stlinkSwimCmd_returns (d := d) hok args
  have hbyte := fun v => stlinkSwimWriteByte_returns (d := d) hok v 0x7f80
  unfold stlinkInitSession
  apply (Drv.Returns.forEach (fun arg => hcmd _) _).bind
  intro _
  apply (stlinkSwimWait_returns hok).bind
  intro _
  apply (hcmd _).bind
  intro _
  apply (hcmd _).bind
  intro _
  apply (hbyte _).bind
  intro _
  apply (hcmd _).bind
  intro _
  apply (hcmd _).bind
  intro _
  apply (hbyte _).bind
  intro _
  exact (hcmd _).bind fun _ => (hbyte _).bind fun _ => Drv.Returns.pure _

theorem stlinkFinishSession_returns (hok : env.NoFailure) :
    Drv.Returns (stlinkFinishSession d env) :=
  (stlinkSwimWriteByte_returns hok _ _).bind fun _ =>
    (stlinkSwimCmd_returns hok _).bind fun _ => (stlinkSwimCmd_returns hok _).bind fun _ =>
      stlinkSwimCmd_returns hok _

end Returns

/-! ## Packets -/

section Packets

variable {d : Stm8Device} {hw : Hardware}

/-- The zeros after a command do not show. -/
theorem stlinkCb_getD (args : List Byte) (k : Nat) : (stlinkCb args).getD k 0 = args.getD k 0 := by
  unfold stlinkCb
  rcases Nat.lt_or_ge k args.length with hlt | hge
  · rw [List.getD_append _ _ _ _ hlt]
  · rw [List.getD_append_right _ _ _ _ hge, List.getD_eq_default _ _ hge]
    simp

theorem isSwimCmd_cbw (cmd : Byte) (transferLength : Nat) (flags : Byte) (n : Nat)
    (args : List Byte) :
    isSwimCmd cmd (packUsbCbw ⟨transferLength, flags, n, stlinkCb args⟩) =
      (args.getD 0 0 == 0xf4 && args.getD 1 0 == cmd) := by
  rw [← stlinkCb_getD args 0, ← stlinkCb_getD args 1]
  rfl

/-- A command other than `SWIM_WRITEMEM` and `SWIM_READMEM`. -/
def Plain (args : List Byte) : Prop := args.getD 1 0 ≠ 0x0a ∧ args.getD 1 0 ≠ 0x0b

/-- The request for the status after a byte. -/
theorem plain_byteStatus (byte : Byte) (start : Nat) :
    Plain ([0xf4, 0x09, 0x00, 0x01, 0, 0] ++ packInt16 start ++ [byte, 0]) :=
  ⟨show (0x09 : Byte) ≠ 0x0a by decide, show (0x09 : Byte) ≠ 0x0b by decide⟩

theorem Plain.not_swimCmd {args : List Byte} (h : Plain args) {cmd : Byte}
    (hcmd : cmd = 0x0a ∨ cmd = 0x0b) (transferLength : Nat) (flags : Byte) (n : Nat) :
    isSwimCmd cmd (packUsbCbw ⟨transferLength, flags, n, stlinkCb args⟩) = false := by
  rw [isSwimCmd_cbw, Bool.and_eq_false_iff]
  apply Or.inr
  rw [beq_eq_false_iff_ne]
  rcases hcmd with rfl | rfl
  · exact h.1
  · exact h.2

/-- Only the lower 16 bits of the address arrive. -/
theorem be32_packInt16 (start : Nat) :
    be32 (0 : Byte).toNat (0 : Byte).toNat (UInt8.ofNat (HI start)).toNat
      (UInt8.ofNat (LO start)).toNat = start % 65536 := by
  rw [ofNat_toNat_of_lt (HI_lt start), ofNat_toNat_of_lt (LO_lt start)]
  exact be32_bytes16 start

theorem be16_packInt16 {length : Nat} (h : length < 65536) :
    be16 (UInt8.ofNat (HI length)).toNat (UInt8.ofNat (LO length)).toNat = length := by
  rw [ofNat_toNat_of_lt (HI_lt length), ofNat_toNat_of_lt (LO_lt length)]
  exact be16_bytes h

/-- What the programmer does with the command that writes a byte. -/
theorem stlinkReceive_byte (transferLength : Nat) (flags : Byte) (n : Nat) (byte : Byte)
    (start : Nat) (s : StlinkState) :
    stlinkReceive d hw
        (packUsbCbw ⟨transferLength, flags, n, stlinkCb (stlinkByteArgs byte start)⟩) [] s =
      s.setTarget (s.target.write d (start % 65536) [byte]) := by
  have haddr := be32_packInt16 start
  unfold stlinkReceive
  rw [if_pos (by rw [isSwimCmd_cbw]; rfl)]
  show s.setTarget (s.target.write d (be32 (0 : Byte).toNat (0 : Byte).toNat
    (UInt8.ofNat (HI start)).toNat (UInt8.ofNat (LO start)).toNat) [byte]) = _
  rw [haddr]

/-- What the programmer does with a block write. -/
theorem stlinkReceive_block {data : List Byte} {start length : Nat} (hlen : data.length = length)
    (h8 : 8 ≤ length) (hlt : length < 65536) (s : StlinkState) :
    stlinkReceive d hw (packUsbCbw (stlinkBlockCbw data start length 0))
        (stlinkBlockTail data length 0) s =
      s.setTarget (s.target.write d (start % 65536) data) := by
  have haddr := be32_packInt16 start
  have hlength := be16_packInt16 hlt
  -- the first eight bytes of the block are in the packet
  have hcb : (packUsbCbw (stlinkBlockCbw data start length 0)).drop 23 = data.take 8 := by
    show (stlinkCb ([0xf4, 0x0a] ++ packInt16 length ++ [0, 0] ++ packInt16 start ++
      List.replicate 0 0 ++ data.take 8)).drop 8 = data.take 8
    have hfull : ([0xf4, 0x0a] ++ packInt16 length ++ [0, 0] ++ packInt16 start ++
        List.replicate 0 0 ++ data.take 8).length = 16 := by
      simp [packInt16, hlen, h8]
    unfold stlinkCb
    rw [hfull, Nat.sub_self, List.replicate_zero, List.append_nil]
    rfl
  -- without padding the others follow
  have htail : stlinkBlockTail data length 0 = data.drop 8 := by
    show (data.drop 8).take (length + 0 - 8) ++ List.replicate 0 1 = data.drop 8
    rw [List.replicate_zero, List.append_nil, List.take_of_length_le]
    rw [List.length_drop, hlen]
    exact Nat.le_refl _
  unfold stlinkReceive
  rw [if_pos (by unfold stlinkBlockCbw; rw [isSwimCmd_cbw]; rfl), hcb, htail,
    List.take_append_drop]
  show s.setTarget (s.target.write d (be32 (0 : Byte).toNat (0 : Byte).toNat
    (UInt8.ofNat (HI start)).toNat (UInt8.ofNat (LO start)).toNat)
    (data.take (be16 (UInt8.ofNat (HI length)).toNat (UInt8.ofNat (LO length)).toNat))) = _
  rw [haddr, hlength, List.take_of_length_le (Nat.le_of_eq hlen)]

/-- A command without data is no block write. -/
theorem isBlockWrite_zero (flags : Byte) (n : Nat) (cb : List Byte) :
    isBlockWrite (packUsbCbw ⟨0, flags, n, cb⟩) = false := by
  have hzero : stlinkTransferLength (packUsbCbw ⟨0, flags, n, cb⟩) = 0 := by
    show be32 (UInt8.ofNat (EH 0)).toNat (UInt8.ofNat (EX 0)).toNat (UInt8.ofNat (HI 0)).toNat
      (UInt8.ofNat (LO 0)).toNat = 0
    decide
  rw [isBlockWrite, hzero]
  exact Bool.and_false _

theorem Plain.not_range {args : List Byte} (h : Plain args) (transferLength : Nat) (flags : Byte)
    (n : Nat) : isRangeCmd (packUsbCbw ⟨transferLength, flags, n, stlinkCb args⟩) = false := by
  rw [isRangeCmd, isSwimRead, isBlockWrite, h.not_swimCmd (Or.inr rfl),
    h.not_swimCmd (Or.inl rfl)]
  rfl

theorem stlinkByteArgs_not_range (flags : Byte) (n : Nat) (byte : Byte) (start : Nat) :
    isRangeCmd (packUsbCbw ⟨0, flags, n, stlinkCb (stlinkByteArgs byte start)⟩) = false := by
  rw [isRangeCmd, isSwimRead, isBlockWrite_zero, isSwimCmd_cbw]
  rfl

end Packets

/-! ## What a command leaves alone -/

/-- The range commands sent and the errors printed. -/
def StlinkState.record (s : StlinkState) : List (List Byte) × Nat := (s.rangeCmds, s.writeErrors)

section Keeps

variable {d : Stm8Device} {env : StlinkEnv}

theorem stlinkReceive_record (p rest : List Byte) (s : StlinkState) :
    (stlinkReceive d env.hw p rest s).record = s.record := by
  unfold stlinkReceive
  split
  · rfl
  · split
    · rfl
    · rfl

theorem StlinkState.send_record {p : List Byte} (h : isRangeCmd p = false) (s : StlinkState) :
    (s.send p).record = s.record := by
  unfold StlinkState.record StlinkState.rangeCmds
  rw [StlinkState.send_sent, List.filter_append, List.filter_singleton, h]
  simp

/-- The target, what has been read from it, and the record. -/
def StlinkState.kept (s : StlinkState) : Target × List Byte × List (List Byte) × Nat :=
  (s.target, s.readbuf, s.record)

theorem stlinkTransfer_kept : Drv.Keeps StlinkState.kept (stlinkTransfer env) :=
  Drv.Keeps.state.bind fun _ => Drv.Keeps.bind (Drv.Keeps.change fun _ => rfl) fun _ =>
    Drv.Keeps.ite (Drv.Keeps.pure _) (Drv.Keeps.stop _)

theorem stlinkDataPhase_kept (data : List Byte) (transferLength : Nat) :
    Drv.Keeps StlinkState.kept (stlinkDataPhase env data transferLength) :=
  Drv.Keeps.ite (stlinkTransfer_kept.bind fun _ => Drv.Keeps.pure _) (Drv.Keeps.pure _)

theorem stlinkReadCsw_kept : Drv.Keeps StlinkState.kept (stlinkReadCsw env) :=
  stlinkTransfer_kept.bind fun _ => Drv.Keeps.pure _

/-- Most commands leave the target alone and are not recorded. -/
theorem stlinkCmd_kept {args : List Byte} (h : Plain args) (transferLength : Nat) (flags : Byte)
    (data : List Byte) :
    Drv.Keeps StlinkState.kept (stlinkCmd d env transferLength flags args data) := by
  refine Drv.Keeps.bind (stlinkTransfer_kept.bind fun _ => Drv.Keeps.change fun s => ?_) fun _ => ?_
  · have hrecord := StlinkState.send_record (h.not_range transferLength flags args.length) s
    exact Prod.ext rfl (Prod.ext rfl hrecord)
  refine (Drv.Keeps.change fun s => ?_).bind fun _ => ?_
  · have hkept : stlinkReceive d env.hw
        (packUsbCbw ⟨transferLength, flags, args.length, stlinkCb args⟩) [] s = s := by
      unfold stlinkReceive isSwimRead
      rw [h.not_swimCmd (Or.inl rfl), h.not_swimCmd (Or.inr rfl)]
      rfl
    rw [hkept]
  exact (stlinkDataPhase_kept _ _).bind fun _ => stlinkReadCsw_kept.bind fun _ =>
    Drv.Keeps.pure _

theorem stlinkStatusReply_kept (reply : List Byte) :
    Drv.Keeps StlinkState.kept (stlinkStatusReply d env reply) := by
  refine Drv.Keeps.state.bind fun s => Drv.Keeps.bind ?_ fun _ => Drv.Keeps.pure _
  exact stlinkCmd_kept ⟨by decide, by decide⟩ _ _ _

theorem stlinkWaitLoop_kept (replies : List (List Byte)) :
    Drv.Keeps StlinkState.kept (stlinkWaitLoop d env replies) := by
  induction replies with
  | nil => exact Drv.Keeps.stop _
  | cons reply replies ih =>
    exact (stlinkStatusReply_kept reply).bind fun _ => Drv.Keeps.ite ih (Drv.Keeps.pure _)

theorem stlinkSwimWait_kept : Drv.Keeps StlinkState.kept (stlinkSwimWait d env) :=
  Drv.Keeps.state.bind fun _ => stlinkWaitLoop_kept _

/-- The target and the record. -/
def StlinkState.seen (s : StlinkState) : Target × List (List Byte) × Nat := (s.target, s.record)

theorem seen_of_kept {α : Type} {prog : Stlink α} (h : Drv.Keeps StlinkState.kept prog) :
    Drv.Keeps StlinkState.seen prog := h.comp fun k => (k.1, k.2.2)

theorem stlinkTransfer_seen : Drv.Keeps StlinkState.seen (stlinkTransfer env) :=
  seen_of_kept stlinkTransfer_kept

theorem stlinkDataPhase_seen (data : List Byte) (transferLength : Nat) :
    Drv.Keeps StlinkState.seen (stlinkDataPhase env data transferLength) :=
  seen_of_kept (stlinkDataPhase_kept data transferLength)

theorem stlinkReadCsw_seen : Drv.Keeps StlinkState.seen (stlinkReadCsw env) :=
  seen_of_kept stlinkReadCsw_kept

theorem stlinkCmd_seen {args : List Byte} (h : Plain args) (transferLength : Nat) (flags : Byte)
    (data : List Byte) :
    Drv.Keeps StlinkState.seen (stlinkCmd d env transferLength flags args data) :=
  seen_of_kept (stlinkCmd_kept h transferLength flags data)

theorem stlinkStatusReply_seen (reply : List Byte) :
    Drv.Keeps StlinkState.seen (stlinkStatusReply d env reply) :=
  seen_of_kept (stlinkStatusReply_kept reply)

theorem stlinkSwimWait_seen : Drv.Keeps StlinkState.seen (stlinkSwimWait d env) :=
  seen_of_kept stlinkSwimWait_kept

theorem stlinkSwimCmd_seen {args : List Byte} (h : Plain args) :
    Drv.Keeps StlinkState.seen (stlinkSwimCmd d env args) :=
  (stlinkCmd_seen h _ _ _).bind fun _ =>
    (Drv.Keeps.state.bind fun _ => stlinkStatusReply_seen _).bind fun _ => Drv.Keeps.pure _

theorem stlinkTryByte_record (byte : Byte) (start : Nat) :
    Drv.Keeps StlinkState.record (stlinkTryByte d env byte start) := by
  have hseen {α : Type} {prog : Stlink α} (h : Drv.Keeps StlinkState.seen prog) :
      Drv.Keeps StlinkState.record prog := h.comp Prod.snd
  refine Drv.Keeps.bind ?_ fun _ => Drv.Keeps.state.bind fun s => Drv.Keeps.bind ?_ fun _ =>
    Drv.Keeps.pure _
  · refine Drv.Keeps.bind ((hseen stlinkTransfer_seen).bind fun _ =>
      Drv.Keeps.change fun s => ?_) fun _ => ?_
    · exact StlinkState.send_record (stlinkByteArgs_not_range _ _ _ _) s
    apply (Drv.Keeps.change fun s => stlinkReceive_record _ _ s).bind
    intro _
    exact (hseen (stlinkDataPhase_seen _ _)).bind fun _ =>
      (hseen stlinkReadCsw_seen).bind fun _ => Drv.Keeps.pure _
  · exact hseen (stlinkCmd_seen (plain_byteStatus byte start) _ _ _)

theorem stlinkSwimWriteByte_record (byte : Byte) (start : Nat) :
    Drv.Keeps StlinkState.record (stlinkSwimWriteByte d env byte start) := by
  have hloop (tries : Nat) :
      Drv.Keeps StlinkState.record (stlinkWriteByteLoop d env byte start tries) := by
    induction tries with
    | zero => exact stlinkTryByte_record byte start
    | succ tries ih =>
      apply (stlinkTryByte_record byte start).bind
      intro _
      exact Drv.Keeps.ite (Drv.Keeps.ite ih (Drv.Keeps.pure _)) (Drv.Keeps.pure _)
  exact hloop 4

end Keeps

/-! ## What a command does to the target -/

section Target

variable {d : Stm8Device} {env : StlinkEnv} {m : Nat → Byte} {mode : ProgMode}

/-- A program that leaves the target alone. -/
theorem inMode_of_seen {α : Type} {prog : Stlink α} (h : Drv.Keeps StlinkState.seen prog)
    {P : Target → Prop} :
    Drv.Triple (fun s => P s.target) prog (fun _ s => P s.target) (fun _ _ => True) :=
  ((h.comp Prod.fst).triple P).conseq (fun _ hs => hs) (fun _ _ hs => hs) fun _ _ _ => trivial

theorem stlinkTryByte_regs (hd : d.Sound) :
    WritesRegs StlinkState.target d (fun _ _ => True) (stlinkTryByte d env) := by
  intro t v a ha
  have hlt := hd.control_lt ha
  -- a register address survives the truncation to 16 bits
  have haddr : a % 65536 = a := Nat.mod_eq_of_lt (by omega)
  have hafter {α : Type} {prog : Stlink α} (h : Drv.Keeps StlinkState.seen prog) :=
    inMode_of_seen h (P := fun u => u = t.poke d a v)
  refine Drv.Triple.bind (Q := fun _ s => s.target = t.poke d a v) ?_ fun _ => ?_
  · refine Drv.Triple.bind (Q := fun _ s => s.target = t) ?_ fun _ => ?_
    · refine (inMode_of_seen stlinkTransfer_seen (P := fun u => u = t)).bind fun _ => ?_
      exact Drv.Triple.change fun s hs => hs
    refine Drv.Triple.bind (Q := fun _ s => s.target = t.poke d a v) ?_ fun _ => ?_
    · refine Drv.Triple.change fun s hs => ?_
      rw [stlinkReceive_byte, StlinkState.setTarget_target, hs, haddr,
        Target.write_one hd.one_lt]
    exact (hafter (stlinkDataPhase_seen _ _)).bind fun _ =>
      (hafter stlinkReadCsw_seen).bind fun _ => Drv.Triple.pure fun _ hs => hs
  refine Drv.Triple.bind (Q := fun _ s => s.target = t.poke d a v)
    (Drv.Triple.state fun _ hs => hs) fun s => ?_
  exact (hafter (stlinkCmd_seen (plain_byteStatus v a) _ _ _)).bind fun _ =>
    Drv.Triple.pure fun _ hs => hs

/-- The tries repeat the write. -/
theorem stlinkSwimWriteByte_spec {P Q : StlinkState → Prop} {v : Byte} {a : Nat}
    (hfirst : Drv.Triple P (stlinkTryByte d env v a) (fun _ => Q) (fun _ _ => True))
    (hagain : Drv.Triple Q (stlinkTryByte d env v a) (fun _ => Q) (fun _ _ => True)) :
    Drv.Triple P (stlinkSwimWriteByte d env v a) (fun _ => Q) (fun _ _ => True) := by
  -- the first try has `P` before it, any other one `Q`
  have hloop (tries : Nat) {R : StlinkState → Prop}
      (h : Drv.Triple R (stlinkTryByte d env v a) (fun _ => Q) (fun _ _ => True)) :
      Drv.Triple R (stlinkWriteByteLoop d env v a tries) (fun _ => Q) (fun _ _ => True) := by
    induction tries generalizing R with
    | zero => exact h
    | succ tries ih =>
      have hdone (result : Nat) : Drv.Triple Q (pure result : Stlink Nat) (fun _ => Q)
        (fun _ _ => True) := Drv.Triple.pure fun _ hs => hs
      refine h.bind fun result => Drv.Triple.ite (fun _ => ?_) fun _ => hdone result
      exact Drv.Triple.ite (fun _ => ih hagain) fun _ => hdone result
  exact hloop 4 hfirst

theorem stlinkSwimWriteByte_control (hd : d.Sound) {a : Nat} (ha : d.IsControl a)
    (hne : a ≠ d.regs.flashCr2) (v : Byte) :
    Drv.Triple (fun s => Target.InMode d m mode s.target) (stlinkSwimWriteByte d env v a)
      (fun _ s => Target.InMode d m mode s.target) (fun _ _ => True) :=
  stlinkSwimWriteByte_spec ((stlinkTryByte_regs hd).control ha hne v)
    ((stlinkTryByte_regs hd).control ha hne v)

theorem stlinkSwimWriteByte_cr2 (hd : d.Sound) (v : Byte) :
    Drv.Triple (fun s => Target.InMode d m mode s.target)
      (stlinkSwimWriteByte d env v d.regs.flashCr2)
      (fun _ s => Target.InMode d m (progMode v) s.target) (fun _ _ => True) :=
  stlinkSwimWriteByte_spec ((stlinkTryByte_regs hd).cr2 v) ((stlinkTryByte_regs hd).cr2 v)

end Target

/-! ## Sessions -/

section Sessions

variable {d : Stm8Device} {env : StlinkEnv} {P : StlinkState → Prop}
  {E : StlinkError → StlinkState → Prop}

/-- `P` and `E` do not depend on more than the target and the record. -/
def SeenOnly (P : StlinkState → Prop) (E : StlinkError → StlinkState → Prop) : Prop :=
  ∀ ⦃α : Type⦄ ⦃prog : Stlink α⦄, Drv.Keeps StlinkState.seen prog →
    Drv.Triple P prog (fun _ => P) E

/-- A wait that ends has seen bit 0 clear. -/
theorem stlinkWaitLoop_ready (hseen : SeenOnly P E) (replies : List (List Byte)) :
    Drv.Triple P (stlinkWaitLoop d env replies) (fun result s => result &&& 1 = 0 ∧ P s) E := by
  induction replies with
  | nil =>
    have hstop : Drv.Keeps StlinkState.seen (Drv.stop .noStatus : Stlink Unit) := Drv.Keeps.stop _
    exact Drv.Triple.stop fun s hs => (hseen hstop).of_error hs rfl
  | cons reply replies ih =>
    apply (hseen (stlinkStatusReply_seen reply)).bind
    intro result
    apply Drv.Triple.ite (fun _ => ih)
    intro hready
    apply Drv.Triple.pure
    intro s hs
    exact ⟨Decidable.not_not.mp hready, hs⟩

theorem stlinkSwimWait_ready (hseen : SeenOnly P E) :
    Drv.Triple P (stlinkSwimWait d env) (fun result s => result &&& 1 = 0 ∧ P s) E :=
  (hseen Drv.Keeps.state).bind fun _ => stlinkWaitLoop_ready hseen _

/-- What a write to `SWIM_CSR` keeps, a session keeps. -/
theorem stlinkInitSession_keeps (hseen : SeenOnly P E)
    (hbyte : ∀ v, Drv.Triple P (stlinkSwimWriteByte d env v 0x7f80) (fun _ => P) E) :
    Drv.Triple P (stlinkInitSession d env) (fun _ => P) E := by
  have hcmd {args : List Byte} (h : args.getD 1 0 ≠ 0x0a ∧ args.getD 1 0 ≠ 0x0b) :
      Drv.Triple P (stlinkSwimCmd d env args) (fun _ => P) E := hseen (stlinkSwimCmd_seen h)
  have hreset : Drv.Triple P
      (Drv.forEach (fun arg => stlinkSwimCmd d env [0xf4, arg, 0x01, 0, 0, 0, 0, 0, 0, 0])
        [0x07, 0x07, 0x08, 0x07, 0x04]) (fun _ => P) E := by
    refine Drv.Triple.forEach_keeps fun arg hmem => hcmd ?_
    show arg ≠ 0x0a ∧ arg ≠ 0x0b
    simp only [List.mem_cons, List.not_mem_nil, or_false] at hmem
    rcases hmem with rfl | rfl | rfl | rfl | rfl <;> constructor <;> decide
  unfold stlinkInitSession
  apply hreset.bind
  intro _
  apply (hseen stlinkSwimWait_seen).bind
  intro _
  apply (hcmd ⟨by decide, by decide⟩).bind
  intro _
  apply (hcmd ⟨by decide, by decide⟩).bind
  intro _
  apply (hbyte _).bind
  intro _
  apply (hcmd ⟨by decide, by decide⟩).bind
  intro _
  apply (hcmd ⟨by decide, by decide⟩).bind
  intro _
  apply (hbyte _).bind
  intro _
  apply (hcmd ⟨by decide, by decide⟩).bind
  intro _
  apply (hbyte _).bind
  intro _
  exact Drv.Triple.pure fun _ hs => hs

theorem stlinkFinishSession_keeps (hseen : SeenOnly P E)
    (hbyte : ∀ v, Drv.Triple P (stlinkSwimWriteByte d env v 0x7f80) (fun _ => P) E) :
    Drv.Triple P (stlinkFinishSession d env) (fun _ => P) E := by
  have hcmd {args : List Byte} (h : args.getD 1 0 ≠ 0x0a ∧ args.getD 1 0 ≠ 0x0b) :
      Drv.Triple P (stlinkSwimCmd d env args) (fun _ => P) E := hseen (stlinkSwimCmd_seen h)
  unfold stlinkFinishSession
  apply (hbyte _).bind
  intro _
  apply (hcmd ⟨by decide, by decide⟩).bind
  intro _
  exact (hcmd ⟨by decide, by decide⟩).bind fun _ => hcmd ⟨by decide, by decide⟩

end Sessions

end Stm8Flash
