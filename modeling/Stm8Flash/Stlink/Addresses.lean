import Stm8Flash.Stlink.Range

/-! # The addresses that ST-Link V1 sends

`stlinkSwimReadRange_rangeCmds` and `stlinkSwimWriteRange_rangeCmds` list the reads and the block
writes of a run, whatever the environment: one for each chunk, in order, up to where the run
stops. Their addresses have 16 bits (`stlinkReadPacket_addr`, `stlinkBlockPacket_addr`), so they
are those of the chunks exactly when the last chunk starts below 64 KiB
(`stlinkAddresses_iff`).
-/

namespace Stm8Flash

open Hex Word

/-! ## The packets of the chunks -/

/-- The packet that reads the `j`-th chunk. -/
def stlinkReadPacket (start length j : Nat) : List Byte :=
  packUsbCbw ⟨0, 0x80, 10, stlinkCb (stlinkReadArgs 0x0b (u32 (start + j * stlkReadBufferSize))
    (if length - j * stlkReadBufferSize > stlkReadBufferSize then stlkReadBufferSize
      else length - j * stlkReadBufferSize))⟩

/-- The packet that writes the `j`-th block. -/
def stlinkBlockPacket (d : Stm8Device) (buffer : Nat → Byte) (start length j : Nat) : List Byte :=
  packUsbCbw (stlinkBlockCbw (stlinkBlock d buffer length (j * d.flashBlockSize))
    (u32 (start + j * d.flashBlockSize)) d.flashBlockSize 0)

theorem u32_mod (n : Nat) : u32 n % 65536 = n % 65536 := by
  unfold u32
  omega

theorem stlinkReadPacket_addr (start length j : Nat) :
    stlinkAddr (stlinkReadPacket start length j) = (start + j * stlkReadBufferSize) % 65536 :=
  (be32_packInt16 _).trans (u32_mod _)

theorem stlinkBlockPacket_addr (d : Stm8Device) (buffer : Nat → Byte) (start length j : Nat) :
    stlinkAddr (stlinkBlockPacket d buffer start length j) =
      (start + j * d.flashBlockSize) % 65536 :=
  (be32_packInt16 _).trans (u32_mod _)

theorem stlinkReadPacket_range (start length j : Nat) :
    isRangeCmd (stlinkReadPacket start length j) = true := by
  have hread : isSwimRead (stlinkReadPacket start length j) = true := rfl
  rw [isRangeCmd, hread]
  rfl

theorem stlinkTransferLength_cbw {transferLength : Nat} (h : transferLength < 4294967296)
    (flags : Byte) (n : Nat) (cb : List Byte) :
    stlinkTransferLength (packUsbCbw ⟨transferLength, flags, n, cb⟩) = transferLength := by
  show be32 (UInt8.ofNat (EH transferLength)).toNat (UInt8.ofNat (EX transferLength)).toNat
    (UInt8.ofNat (HI transferLength)).toNat (UInt8.ofNat (LO transferLength)).toNat =
      transferLength
  rw [ofNat_toNat_of_lt (EH_lt _), ofNat_toNat_of_lt (EX_lt _), ofNat_toNat_of_lt (HI_lt _),
    ofNat_toNat_of_lt (LO_lt _)]
  exact be32_bytes h

theorem stlinkBlockPacket_range {d : Stm8Device} (hd : d.Sound) (buffer : Nat → Byte)
    (start length j : Nat) : isRangeCmd (stlinkBlockPacket d buffer start length j) = true := by
  have hlength : stlinkTransferLength (stlinkBlockPacket d buffer start length j) =
      d.flashBlockSize - 8 := by
    refine stlinkTransferLength_cbw ?_ _ _ _
    have hlt := hd.block_lt
    omega
  have hne : (d.flashBlockSize - 8 != 0) = true := by
    rcases hd.block_size with hb | hb <;> rw [hb] <;> decide
  have hcmd : isSwimCmd 0x0a (stlinkBlockPacket d buffer start length j) = true := rfl
  rw [isRangeCmd, isBlockWrite, hcmd, hlength, hne]
  exact Bool.or_true _

/-! ## The record of a run -/

section Record

variable {d : Stm8Device} {env : StlinkEnv} {r : List (List Byte) × Nat}
  {E : StlinkError → StlinkState → Prop}

theorem seenOnly_record (hE : ∀ e s, s.record = r → E e s) :
    SeenOnly (fun s => s.record = r) E := by
  intro α prog h
  exact ((h.comp Prod.snd).triple (· = r)).conseq (fun _ hs => hs) (fun _ _ hs => hs) hE

theorem stlinkSwimWriteByte_recorded (hE : ∀ e s, s.record = r → E e s) (v : Byte) (a : Nat) :
    Drv.Triple (fun s => s.record = r) (stlinkSwimWriteByte d env v a)
      (fun _ s => s.record = r) E :=
  ((stlinkSwimWriteByte_record v a).triple (· = r)).conseq (fun _ hs => hs) (fun _ _ hs => hs) hE

/-- A range command is recorded. -/
theorem stlinkSendCbw_recorded {cmds : List (List Byte)} {n : Nat} {cbw : ScsiUsbCbw}
    (hrange : isRangeCmd (packUsbCbw cbw) = true) (hE : ∀ e s, s.record = (cmds, n) → E e s) :
    Drv.Triple (fun s => s.record = (cmds, n)) (stlinkSendCbw env cbw)
      (fun _ s => s.record = (cmds ++ [packUsbCbw cbw], n)) E := by
  apply Drv.Triple.bind (seenOnly_record hE stlinkTransfer_seen)
  intro _
  apply Drv.Triple.change
  intro s hs
  have hcmds : s.rangeCmds = cmds := congrArg Prod.fst hs
  have herrors : s.writeErrors = n := congrArg Prod.snd hs
  unfold StlinkState.record StlinkState.rangeCmds
  rw [StlinkState.send_sent, List.filter_append, List.filter_singleton, hrange,
    StlinkState.send_writeErrors, herrors]
  rw [StlinkState.rangeCmds] at hcmds
  rw [hcmds]
  rfl

theorem stlinkReceive_recorded (p rest : List Byte) :
    Drv.Triple (fun s => s.record = r) (Drv.change fun s => stlinkReceive d env.hw p rest s)
      (fun _ s => s.record = r) E := by
  apply Drv.Triple.change
  intro s hs
  rw [stlinkReceive_record]
  exact hs

/-- A chunk is read with one read of memory. -/
theorem stlinkReadChunk_recorded {cmds : List (List Byte)} {n start length j : Nat}
    (hbefore : ∀ e s, s.record = (cmds, n) → E e s)
    (hafter : ∀ e s, s.record = (cmds ++ [stlinkReadPacket start length j], n) → E e s)
    (buffer : Nat → Byte) :
    Drv.Triple (fun s => s.record = (cmds, n))
      (stlinkReadChunk d env start length (j * stlkReadBufferSize) buffer)
      (fun _ s => s.record = (cmds ++ [stlinkReadPacket start length j], n)) E := by
  have hseen := seenOnly_record hafter
  refine Drv.Triple.ite (fun _ => ?_) fun _ => Drv.Triple.stop fun s hs => hbefore _ s hs
  -- the read of memory; the read of the buffer behind it is not recorded
  refine Drv.Triple.bind (Q := fun _ s =>
    s.record = (cmds ++ [stlinkReadPacket start length j], n)) ?_ fun _ => ?_
  · refine (stlinkSendCbw_recorded (stlinkReadPacket_range start length j) hbefore).bind
      fun _ => ?_
    apply (stlinkReceive_recorded _ _).bind
    intro _
    apply (hseen (stlinkDataPhase_seen _ _)).bind
    intro _
    exact (hseen stlinkReadCsw_seen).bind fun _ => Drv.Triple.pure fun _ hs => hs
  apply (hseen stlinkSwimWait_seen).bind
  intro _
  apply (hseen Drv.Keeps.state).bind
  intro s
  refine (hseen (stlinkCmd_seen ?_ _ _ _)).bind fun _ => Drv.Triple.pure fun _ hs => hs
  exact ⟨show (0x0c : Byte) ≠ 0x0a by decide, show (0x0c : Byte) ≠ 0x0b by decide⟩

/-- The first `j` packets after `cmds`. -/
def sentFirst (cmds : List (List Byte)) (packet : Nat → List Byte) (j : Nat) : List (List Byte) :=
  cmds ++ (List.range j).map packet

theorem sentFirst_zero (cmds : List (List Byte)) (packet : Nat → List Byte) :
    sentFirst cmds packet 0 = cmds := by
  simp [sentFirst]

theorem sentFirst_succ (cmds : List (List Byte)) (packet : Nat → List Byte) (j : Nat) :
    sentFirst cmds packet (j + 1) = sentFirst cmds packet j ++ [packet j] := by
  simp [sentFirst, List.range_succ]

/-- A run that has sent some of the packets, in order. -/
def SentUpTo (cmds : List (List Byte)) (n : Nat) (packet : Nat → List Byte) (rounds : Nat)
    (_ : StlinkError) (s : StlinkState) : Prop :=
  ∃ j ≤ rounds, s.record = (sentFirst cmds packet j, n)

/-- The range commands of `stlink_swim_read_range`: one read for each chunk. -/
theorem stlinkSwimReadRange_rangeCmds (d : Stm8Device) (env : StlinkEnv)
    (cmds : List (List Byte)) (n : Nat) (buffer : Nat → Byte) (start length : Nat) :
    Drv.Triple (fun s => s.record = (cmds, n)) (stlinkSwimReadRange d env buffer start length)
      (fun _ s => s.record =
        (sentFirst cmds (stlinkReadPacket start length) (stlinkReadRounds length), n))
      (SentUpTo cmds n (stlinkReadPacket start length) (stlinkReadRounds length)) := by
  -- a run that stops in a round has sent the packets before it
  have hE : ∀ j ≤ stlinkReadRounds length, ∀ e s,
      s.record = (sentFirst cmds (stlinkReadPacket start length) j, n) →
      SentUpTo cmds n (stlinkReadPacket start length) (stlinkReadRounds length) e s :=
    fun j hj e s h => ⟨j, hj, h⟩
  have hfirst := hE 0 (Nat.zero_le _)
  have hlast := hE _ (Nat.le_refl _)
  have hloop : Drv.Triple
      (fun s => s.record = (sentFirst cmds (stlinkReadPacket start length) 0, n))
      (Drv.foldFrom (fun j buffer => stlinkReadChunk d env start length (j * stlkReadBufferSize)
        buffer) (stlinkReadRounds length) 0 buffer)
      (fun _ s => s.record =
        (sentFirst cmds (stlinkReadPacket start length) (0 + stlinkReadRounds length), n))
      (SentUpTo cmds n (stlinkReadPacket start length) (stlinkReadRounds length)) := by
    refine Drv.Triple.foldFrom (I := fun j (_ : Nat → Byte) (s : StlinkState) =>
      s.record = (sentFirst cmds (stlinkReadPacket start length) j, n)) _ (fun j buffer _ hj => ?_)
      buffer
    have hnext := hE (j + 1) (by omega)
    rw [sentFirst_succ] at hnext ⊢
    exact stlinkReadChunk_recorded (hE j (by omega)) hnext buffer
  rw [sentFirst_zero] at hfirst
  rw [sentFirst_zero, Nat.zero_add] at hloop
  refine (stlinkInitSession_keeps (seenOnly_record hfirst)
    fun v => stlinkSwimWriteByte_recorded hfirst v _).bind fun _ => ?_
  apply (stlinkSwimWriteByte_recorded hfirst _ _).bind
  intro _
  apply hloop.bind
  intro buffer
  refine (stlinkFinishSession_keeps (seenOnly_record hlast)
    fun v => stlinkSwimWriteByte_recorded hlast v _).bind fun _ => ?_
  exact Drv.Triple.pure fun _ hs => hs

theorem stlinkEnterBlock_recorded (hE : ∀ e s, s.record = r → E e s) (memtype : Memtype) :
    Drv.Triple (fun s => s.record = r) (stlinkEnterBlock d env memtype)
      (fun _ s => s.record = r) E := by
  refine Drv.Triple.when (fun _ => ?_) fun _ _ hs => hs
  apply (stlinkSwimWriteByte_recorded hE _ _).bind
  intro _
  exact Drv.Triple.when (fun _ => stlinkSwimWriteByte_recorded hE _ _) fun _ _ hs => hs

theorem stlinkUnlock_recorded (hE : ∀ e s, s.record = r → E e s) (memtype : Memtype) :
    Drv.Triple (fun s => s.record = r) (stlinkUnlock d env memtype)
      (fun _ s => s.record = r) E := by
  have hbyte (v : Byte) (a : Nat) : Drv.Triple (fun s => s.record = r)
      (stlinkSwimWriteByte d env v a) (fun _ s => s.record = r) E :=
    stlinkSwimWriteByte_recorded hE v a
  apply (Drv.Triple.when (fun _ => hbyte _ _) fun _ _ hs => hs).bind
  intro _
  refine (Drv.Triple.when (fun _ => (hbyte _ _).bind fun _ => hbyte _ _)
    fun _ _ hs => hs).bind fun _ => ?_
  refine (Drv.Triple.when (fun _ => (hbyte _ _).bind fun _ => hbyte _ _)
    fun _ _ hs => hs).bind fun _ => ?_
  exact Drv.Triple.when (fun _ => hbyte _ _) fun _ _ hs => hs

theorem stlinkLock_recorded (hE : ∀ e s, s.record = r → E e s) (memtype : Memtype) :
    Drv.Triple (fun s => s.record = r) (stlinkLock d env memtype) (fun _ s => s.record = r) E :=
  Drv.Triple.when (fun _ => stlinkSwimWriteByte_recorded hE _ _) fun _ _ hs => hs

/-- A block is written with one block write, and reports no error. -/
theorem stlinkSwimWriteBlock_recorded {cmds : List (List Byte)} {n : Nat} {data : List Byte}
    {start length : Nat}
    (hrange : isRangeCmd (packUsbCbw (stlinkBlockCbw data start length 0)) = true)
    (hbefore : ∀ e s, s.record = (cmds, n) → E e s)
    (hafter : ∀ e s, s.record = (cmds ++ [packUsbCbw (stlinkBlockCbw data start length 0)], n) →
      E e s) :
    Drv.Triple (fun s => s.record = (cmds, n)) (stlinkSwimWriteBlock d env data start length 0)
      (fun result s => result &&& 1 = 0 ∧
        s.record = (cmds ++ [packUsbCbw (stlinkBlockCbw data start length 0)], n)) E := by
  have hseen := seenOnly_record hafter
  refine Drv.Triple.ite (fun _ => ?_) fun _ => Drv.Triple.stop fun s hs => hbefore _ s hs
  apply (stlinkSendCbw_recorded hrange hbefore).bind
  intro _
  apply (hseen stlinkTransfer_seen).bind
  intro _
  apply (stlinkReceive_recorded _ _).bind
  intro _
  apply (hseen stlinkReadCsw_seen).bind
  intro csw
  apply Drv.Triple.ite (fun _ => stlinkSwimWait_ready hseen)
  intro _
  exact Drv.Triple.stop fun s hs => hafter _ s hs

theorem stlinkWriteRound_recorded (hd : d.Sound) {cmds : List (List Byte)} {n start length j : Nat}
    {buffer : Nat → Byte} (hbefore : ∀ e s, s.record = (cmds, n) → E e s)
    (hafter : ∀ e s, s.record = (cmds ++ [stlinkBlockPacket d buffer start length j], n) → E e s)
    (memtype : Memtype) :
    Drv.Triple (fun s => s.record = (cmds, n))
      (stlinkWriteRound d env memtype buffer start length (j * d.flashBlockSize))
      (fun _ s => s.record = (cmds ++ [stlinkBlockPacket d buffer start length j], n)) E := by
  refine Drv.Triple.ite (fun _ => ?_) fun _ => Drv.Triple.stop fun s hs => hbefore _ s hs
  apply (stlinkEnterBlock_recorded hbefore memtype).bind
  intro _
  refine (stlinkSwimWriteBlock_recorded (stlinkBlockPacket_range hd buffer start length j) hbefore
    hafter).bind fun result => Drv.Triple.and_pre fun hready => ?_
  -- the wait ends with bit 0 clear, so the error is never printed
  exact Drv.Triple.when (fun herror => absurd hready herror) fun _ _ hs => hs

/-- The range commands of `stlink_swim_write_range`: one block write for each block. No error is
printed. -/
theorem stlinkSwimWriteRange_rangeCmds (hd : d.Sound) (env : StlinkEnv)
    (cmds : List (List Byte)) (n : Nat) (buffer : Nat → Byte) (start length : Nat)
    (memtype : Memtype) :
    Drv.Triple (fun s => s.record = (cmds, n))
      (stlinkSwimWriteRange d env buffer start length memtype)
      (fun _ s => s.record =
        (sentFirst cmds (stlinkBlockPacket d buffer start length) (blockRounds d length), n))
      (SentUpTo cmds n (stlinkBlockPacket d buffer start length) (blockRounds d length)) := by
  -- a run that stops in a round has sent the packets before it
  have hE : ∀ j ≤ blockRounds d length, ∀ e s,
      s.record = (sentFirst cmds (stlinkBlockPacket d buffer start length) j, n) →
      SentUpTo cmds n (stlinkBlockPacket d buffer start length) (blockRounds d length) e s :=
    fun j hj e s h => ⟨j, hj, h⟩
  have hfirst := hE 0 (Nat.zero_le _)
  have hlast := hE _ (Nat.le_refl _)
  have hloop : Drv.Triple
      (fun s => s.record = (sentFirst cmds (stlinkBlockPacket d buffer start length) 0, n))
      (Drv.forFrom (fun j => stlinkWriteRound d env memtype buffer start length
        (j * d.flashBlockSize)) (blockRounds d length) 0)
      (fun _ s => s.record =
        (sentFirst cmds (stlinkBlockPacket d buffer start length) (0 + blockRounds d length), n))
      (SentUpTo cmds n (stlinkBlockPacket d buffer start length) (blockRounds d length)) := by
    refine Drv.Triple.forFrom (I := fun j (s : StlinkState) =>
      s.record = (sentFirst cmds (stlinkBlockPacket d buffer start length) j, n)) _ fun j _ hj => ?_
    have hnext := hE (j + 1) (by omega)
    rw [sentFirst_succ] at hnext ⊢
    exact stlinkWriteRound_recorded hd (hE j (by omega)) hnext memtype
  rw [sentFirst_zero] at hfirst
  rw [sentFirst_zero, Nat.zero_add] at hloop
  refine (stlinkInitSession_keeps (seenOnly_record hfirst)
    fun v => stlinkSwimWriteByte_recorded hfirst v _).bind fun _ => ?_
  apply (stlinkSwimWriteByte_recorded hfirst _ _).bind
  intro _
  apply (stlinkUnlock_recorded hfirst memtype).bind
  intro _
  apply hloop.bind
  intro _
  apply (stlinkLock_recorded hlast memtype).bind
  intro _
  refine (stlinkFinishSession_keeps (seenOnly_record hlast)
    fun v => stlinkSwimWriteByte_recorded hlast v _).bind fun _ => ?_
  exact Drv.Triple.pure fun _ hs => hs

/-- However a read ends, it has sent some of its packets, in order. -/
theorem stlinkSwimReadRange_sent (d : Stm8Device) (env : StlinkEnv) (buffer : Nat → Byte)
    (start length : Nat) (s : StlinkState) :
    ∃ j ≤ stlinkReadRounds length, (stlinkSwimReadRange d env buffer start length s).2.rangeCmds =
      sentFirst s.rangeCmds (stlinkReadPacket start length) j := by
  have hspec := stlinkSwimReadRange_rangeCmds d env s.rangeCmds s.writeErrors buffer
    start length
  have hsent := (hspec.conseq (fun _ hs => hs)
    (fun _ t ht => (⟨_, Nat.le_refl _, ht⟩ : SentUpTo _ _ _ _ .assertion t))
    (fun _ _ ht => ht)).always rfl
  rcases hsent with ⟨j, hj, hrecord⟩
  exact ⟨j, hj, congrArg Prod.fst hrecord⟩

/-- However a write ends, it has sent some of its packets, in order. -/
theorem stlinkSwimWriteRange_sent (hd : d.Sound) (env : StlinkEnv) (buffer : Nat → Byte)
    (start length : Nat) (memtype : Memtype) (s : StlinkState) :
    ∃ j ≤ blockRounds d length,
      (stlinkSwimWriteRange d env buffer start length memtype s).2.rangeCmds =
        sentFirst s.rangeCmds (stlinkBlockPacket d buffer start length) j := by
  have hspec := stlinkSwimWriteRange_rangeCmds hd env s.rangeCmds s.writeErrors
    buffer start length memtype
  have hsent := (hspec.conseq (fun _ hs => hs)
    (fun _ t ht => (⟨_, Nat.le_refl _, ht⟩ : SentUpTo _ _ _ _ .assertion t))
    (fun _ _ ht => ht)).always rfl
  rcases hsent with ⟨j, hj, hrecord⟩
  exact ⟨j, hj, congrArg Prod.fst hrecord⟩

end Record

/-! ## Which addresses are right -/

/-- The `i`-th memory command of a run, if there is one, carries the address of the `i`-th
chunk. -/
def CarryAddresses (before after : StlinkState) (start size : Nat) : Prop :=
  ∀ i p, (after.rangeCmds.drop before.rangeCmds.length)[i]? = some p →
    stlinkAddr p = start + i * size

/-- `stlink_swim_read_range` sends the addresses of its chunks, whatever the programmer does. -/
def ReadAddresses (d : Stm8Device) (start length : Nat) : Prop :=
  ∀ (env : StlinkEnv) (buffer : Nat → Byte) (s : StlinkState),
    CarryAddresses s (stlinkSwimReadRange d env buffer start length s).2 start stlkReadBufferSize

/-- `stlink_swim_write_range` sends the addresses of its blocks, whatever the programmer does. -/
def WriteAddresses (d : Stm8Device) (memtype : Memtype) (start length : Nat) : Prop :=
  ∀ (env : StlinkEnv) (buffer : Nat → Byte) (s : StlinkState),
    CarryAddresses s (stlinkSwimWriteRange d env buffer start length memtype s).2 start
      d.flashBlockSize

section Carry

variable {packet : Nat → List Byte} {start size length : Nat}

theorem sentFirst_drop (cmds : List (List Byte)) (j : Nat) :
    (sentFirst cmds packet j).drop cmds.length = (List.range j).map packet := by
  unfold sentFirst
  rw [List.drop_append_of_le_length (Nat.le_refl _), List.drop_length, List.nil_append]

/-- The last of the chunks of a length that is not 0. -/
theorem rounds_eq (hpos : 0 < length) (hsize : 0 < size) :
    (length + size - 1) / size = (length - 1) / size + 1 := by
  have hsum : length + size - 1 = length - 1 + size := by omega
  rw [hsum, Nat.add_div_right _ hsize]

/-- Where the last chunk starts below 64 KiB, 16 bits are enough. -/
theorem carry_of_below (haddr : ∀ j, stlinkAddr (packet j) = (start + j * size) % 65536)
    (hbelow : length = 0 ∨ start + (length - 1) / size * size < 65536) (hsize : 0 < size)
    {before after : StlinkState} {j : Nat} (hj : j ≤ (length + size - 1) / size)
    (hsent : after.rangeCmds = sentFirst before.rangeCmds packet j) :
    CarryAddresses before after start size := by
  intro i p hp
  rw [hsent, sentFirst_drop] at hp
  have hij : i < j := by
    have hlt := List.getElem?_eq_some_iff.mp hp
    rcases hlt with ⟨hlt, -⟩
    simpa using hlt
  have hpacket : p = packet i := by
    simpa [hij] using hp.symm
  have hpos : 0 < length := by
    rcases Nat.eq_zero_or_pos length with hzero | hpos
    · rw [hzero, Nat.zero_add, Nat.div_eq_of_lt (by omega)] at hj
      omega
    · exact hpos
  rw [rounds_eq hpos hsize] at hj
  -- no chunk starts behind the last one
  have hle : i * size ≤ (length - 1) / size * size := Nat.mul_le_mul_right _ (by omega)
  rw [hpacket, haddr]
  exact Nat.mod_eq_of_lt (by omega)

/-- A run that sends all its chunks shows whether the last one fits. -/
theorem below_of_carry (haddr : ∀ j, stlinkAddr (packet j) = (start + j * size) % 65536)
    (hsize : 0 < size) {before after : StlinkState}
    (hsent : after.rangeCmds = sentFirst before.rangeCmds packet ((length + size - 1) / size))
    (hcarry : CarryAddresses before after start size) :
    length = 0 ∨ start + (length - 1) / size * size < 65536 := by
  rcases Nat.eq_zero_or_pos length with hzero | hpos
  · exact Or.inl hzero
  apply Or.inr
  have hlast := hcarry ((length - 1) / size) (packet ((length - 1) / size)) (by
    rw [hsent, sentFirst_drop, rounds_eq hpos hsize]
    simp)
  rw [haddr] at hlast
  rw [← hlast]
  exact Nat.mod_lt _ (by decide)

end Carry

theorem readAddresses_iff (d : Stm8Device) {start length : Nat} (hlt : length < 2147483648) :
    ReadAddresses d start length ↔
      length = 0 ∨ start + (length - 1) / stlkReadBufferSize * stlkReadBufferSize < 65536 := by
  have hsize : 0 < stlkReadBufferSize := by decide
  have haddr := stlinkReadPacket_addr start length
  have s := StlinkState.fresh fun _ => 0
  constructor
  · intro h
    have hspec := stlinkSwimReadRange_rangeCmds d .answering s.rangeCmds
      s.writeErrors (fun _ => 0) start length
    obtain ⟨r, t, hrun⟩ := @stlinkSwimReadRange_returns d _ StlinkEnv.answering_noFailure start
      length hlt (fun _ => 0) s
    have hsent : t.rangeCmds = _ := congrArg Prod.fst (hspec.of_ok rfl hrun)
    have hcarry := h .answering (fun _ => 0) s
    rw [hrun] at hcarry
    exact below_of_carry haddr hsize hsent hcarry
  · intro h env buffer s
    rcases stlinkSwimReadRange_sent d env buffer start length s with ⟨j, hj, hsent⟩
    exact carry_of_below haddr h hsize hj hsent

theorem writeAddresses_iff {d : Stm8Device} (hd : d.Sound) (memtype : Memtype)
    {start length : Nat} (hlt : length < 2147483648) :
    WriteAddresses d memtype start length ↔
      length = 0 ∨ start + (length - 1) / d.flashBlockSize * d.flashBlockSize < 65536 := by
  have hsize : 0 < d.flashBlockSize := by
    have hone := hd.one_lt
    omega
  have s := StlinkState.fresh fun _ => 0
  constructor
  · intro h
    have hspec := stlinkSwimWriteRange_rangeCmds hd .answering s.rangeCmds s.writeErrors
      (fun _ => 0) start length memtype
    obtain ⟨r, t, hrun⟩ := @stlinkSwimWriteRange_returns d _ hd StlinkEnv.answering_noFailure
      memtype start length hlt (fun _ => 0) s
    have hsent : t.rangeCmds = _ := congrArg Prod.fst (hspec.of_ok rfl hrun)
    have hcarry := h .answering (fun _ => 0) s
    rw [hrun] at hcarry
    exact below_of_carry (stlinkBlockPacket_addr d _ start length) hsize hsent hcarry
  · intro h env buffer s
    obtain ⟨j, hj, hsent⟩ := stlinkSwimWriteRange_sent hd env buffer start length
      memtype s
    exact carry_of_below (stlinkBlockPacket_addr d buffer start length) h hsize hj hsent

/-- The addresses of a range in an area of a device are sent in full exactly when its last chunk
starts below 64 KiB. -/
theorem stlinkAddresses_iff {d : Stm8Device} (hd : d ∈ stm8Devices) (memtype : Memtype)
    {start length : Nat} (harea : d.InArea start length) :
    (ReadAddresses d start length ↔
      length = 0 ∨ start + (length - 1) / stlkReadBufferSize * stlkReadBufferSize < 65536) ∧
    (WriteAddresses d memtype start length ↔
      length = 0 ∨ start + (length - 1) / d.flashBlockSize * d.flashBlockSize < 65536) := by
  have hend := harea.end_le hd
  constructor
  · exact readAddresses_iff d (by omega)
  · exact writeAddresses_iff (stm8Devices_sound d hd) memtype (by omega)

/-- The whole flash of a part with 128 KiB. -/
theorem stlinkAddresses_iff_stm8s208 :
    (ReadAddresses stm8Devices[63] 0x8000 0x20000 ↔
      0x20000 = 0 ∨ 0x8000 + (0x20000 - 1) / stlkReadBufferSize * stlkReadBufferSize < 65536) ∧
    (WriteAddresses stm8Devices[63] .flash 0x8000 0x20000 ↔
      0x20000 = 0 ∨ 0x8000 + (0x20000 - 1) / stm8Devices[63].flashBlockSize *
        stm8Devices[63].flashBlockSize < 65536) :=
  stlinkAddresses_iff (List.getElem_mem _) .flash (by decide)

/-- Of a part with 128 KiB of flash, neither the reads nor the writes are sent in full. -/
theorem stlinkAddresses_wrap :
    ¬∀ d ∈ stm8Devices, ∀ memtype start length, d.InArea start length →
      ReadAddresses d start length ∧ WriteAddresses d memtype start length := by
  intro hall
  have hd : stm8Devices[63] ∈ stm8Devices := List.getElem_mem _
  have hwrite := (hall _ hd .flash 0x8000 0x20000 (by decide)).2
  rw [writeAddresses_iff (stm8Devices_sound _ hd) .flash (by decide)] at hwrite
  revert hwrite
  decide

end Stm8Flash
