import Stm8Flash.Stlink.Range

/-! # ST-Link V1: what a read delivers

`stlink_swim_read_range` begins a session and writes `CLK_CKDIVR` before it reads. So at
`CLK_CKDIVR` and at `SWIM_CSR` it delivers what it has written there itself, and everywhere
else what the target shows (`stlinkSwimReadRange_read`).
-/

namespace Stm8Flash

open Hex Word

/-- The registers that a read writes to. -/
def Stm8Device.SessionReg (d : Stm8Device) (a : Nat) : Prop :=
  a = d.regs.clkCkdivr ∨ a = 0x7f80

/-- `u` is what becomes of `t` when these registers are written to. -/
structure Target.SameBut (d : Stm8Device) (t u : Target) : Prop where
  mem : ∀ a, ¬d.SessionReg a → u.mem a = t.mem a
  status : u.ops = t.ops ∧ u.iapsrReads = t.iapsrReads ∧ u.pul = t.pul ∧ u.dul = t.dul

section Registers

variable {d : Stm8Device} {t u : Target} {a : Nat}

/-- A write to one of them does nothing else. -/
theorem Stm8Device.SessionReg.poke (hd : d.Sound) (ha : d.SessionReg a) (t : Target) (v : Byte) :
    t.poke d a v = { t with mem := Function.update t.mem a v } := by
  have hplain : (a ≠ d.regs.flashCr2 ∧ a ≠ d.regs.flashPukr ∧ a ≠ d.regs.flashDukr ∧
      a ≠ d.regs.flashIapsr) ∧ d.IsControl a := by
    rcases ha with rfl | rfl
    · refine ⟨?_, d.control_clkCkdivr⟩
      rcases hd.regs with h | h <;> rw [h] <;> decide
    · refine ⟨?_, d.control_swimCsr⟩
      rcases hd.regs with h | h <;> rw [h] <;> decide
  rcases hplain with ⟨⟨hcr2, hpukr, hdukr, hiapsr⟩, hctl⟩
  unfold Target.poke
  rw [if_neg hcr2, if_neg hpukr, if_neg hdukr, if_neg hiapsr, if_neg fun h => h.2 hctl]

theorem Target.SameBut.refl (d : Stm8Device) (t : Target) : t.SameBut d t :=
  ⟨fun _ _ => rfl, rfl, rfl, rfl, rfl⟩

theorem Target.SameBut.poke (hd : d.Sound) (h : t.SameBut d u) (ha : d.SessionReg a) (v : Byte) :
    t.SameBut d (u.poke d a v) := by
  rw [ha.poke hd u v]
  refine ⟨fun b hb => ?_, h.status⟩
  have hne : b ≠ a := fun e => hb (e ▸ ha)
  exact (Function.update_of_ne hne v u.mem).trans (h.mem b hb)

/-- Nothing of it shows at another address. -/
theorem Target.SameBut.peek (h : t.SameBut d u) (hw : Hardware) (ha : ¬d.SessionReg a) :
    u.peek d hw a = t.peek d hw a := by
  rcases h.status with ⟨hops, hreads, hpul, hdul⟩
  unfold Target.peek Target.iapsr
  rw [hops, hreads, hpul, hdul, h.mem a ha]

end Registers

/-! ## Commands -/

section Commands

variable {d : Stm8Device} {env : StlinkEnv} {t : Target}

theorem stlinkSwimWriteByte_sameBut (hd : d.Sound) {a : Nat} (ha : d.SessionReg a) (v : Byte) :
    Drv.Triple (fun s => t.SameBut d s.target) (stlinkSwimWriteByte d env v a)
      (fun _ s => t.SameBut d s.target) (fun _ _ => True) := by
  have hctl : d.IsControl a := by
    rcases ha with rfl | rfl
    · exact d.control_clkCkdivr
    · exact d.control_swimCsr
  have htry : Drv.Triple (fun s => t.SameBut d s.target) (stlinkTryByte d env v a)
      (fun _ s => t.SameBut d s.target) (fun _ _ => True) := by
    apply Drv.Triple.of_part
    intro u hu
    apply (stlinkTryByte_regs hd u v a hctl).post
    intro _ s hs
    rw [hs]
    exact hu.poke hd ha v
  exact stlinkSwimWriteByte_spec htry htry

theorem stlinkInitSession_sameBut (hd : d.Sound) :
    Drv.Triple (fun s => t.SameBut d s.target) (stlinkInitSession d env)
      (fun _ s => t.SameBut d s.target) (fun _ _ => True) :=
  stlinkInitSession_keeps (fun _ _ h => inMode_of_seen h) fun v =>
    stlinkSwimWriteByte_sameBut hd (Or.inr rfl) v

/-- What the programmer does with the command that reads a chunk. -/
theorem stlinkReceive_read {hw : Hardware} (flags : Byte) (a : Nat) {n : Nat} (hn : n < 65536)
    (s : StlinkState) :
    stlinkReceive d hw (packUsbCbw ⟨0, flags, (stlinkReadArgs 0x0b a n).length,
        stlinkCb (stlinkReadArgs 0x0b a n)⟩) [] s =
      (s.setReadbuf (s.target.read d hw (a % 65536) n)).setTarget
        (s.target.afterRead d (a % 65536) n) := by
  have haddr := be32_packInt16 a
  have hlength := be16_packInt16 hn
  unfold stlinkReceive isSwimRead
  rw [if_neg (by rw [isSwimCmd_cbw]; exact Bool.false_ne_true),
    if_pos (by rw [isSwimCmd_cbw]; rfl)]
  show (s.setReadbuf (s.target.read d hw (be32 (0 : Byte).toNat (0 : Byte).toNat
      (UInt8.ofNat (HI a)).toNat (UInt8.ofNat (LO a)).toNat)
      (be16 (UInt8.ofNat (HI n)).toNat (UInt8.ofNat (LO n)).toNat))).setTarget
    (s.target.afterRead d (be32 (0 : Byte).toNat (0 : Byte).toNat
      (UInt8.ofNat (HI a)).toNat (UInt8.ofNat (LO a)).toNat)
      (be16 (UInt8.ofNat (HI n)).toNat (UInt8.ofNat (LO n)).toNat)) = _
  rw [haddr, hlength]

/-- The programmer has read `bs`, and the target is `t`. -/
def StlinkState.At (t : Target) (bs : List Byte) (s : StlinkState) : Prop :=
  s.target = t ∧ s.readbuf = bs

/-- A program that leaves both alone. -/
theorem at_of_kept {α : Type} {prog : Stlink α} (h : Drv.Keeps StlinkState.kept prog)
    (t : Target) (bs : List Byte) :
    Drv.Triple (StlinkState.At t bs) prog (fun _ => StlinkState.At t bs) (fun _ _ => True) :=
  ((h.comp fun k => (k.1, k.2.1)).partial_triple fun k => k.1 = t ∧ k.2 = bs)

theorem stlinkCmd_read (flags : Byte) (a : Nat) {n : Nat} (hn : n < 65536) :
    Drv.Triple (fun s => s.target = t)
      (stlinkCmd d env 0 flags (stlinkReadArgs 0x0b a n) [])
      (fun _ => StlinkState.At (t.afterRead d (a % 65536) n) (t.read d env.hw (a % 65536) n))
      (fun _ _ => True) := by
  have hafter {α : Type} {prog : Stlink α} (h : Drv.Keeps StlinkState.kept prog) :=
    at_of_kept h (t.afterRead d (a % 65536) n) (t.read d env.hw (a % 65536) n)
  refine Drv.Triple.bind (Q := fun _ s => s.target = t) ?_ fun _ => ?_
  · refine (inMode_of_seen stlinkTransfer_seen (P := fun u => u = t)).bind fun _ => ?_
    exact Drv.Triple.change fun s hs => hs
  refine Drv.Triple.bind
    (Q := fun _ => StlinkState.At (t.afterRead d (a % 65536) n) (t.read d env.hw (a % 65536) n))
    ?_ fun _ => ?_
  · refine Drv.Triple.change fun s hs => ?_
    rw [stlinkReceive_read flags a hn, hs]
    exact ⟨rfl, rfl⟩
  exact (hafter (stlinkDataPhase_kept _ _)).bind fun _ =>
    (hafter stlinkReadCsw_kept).bind fun _ => Drv.Triple.pure fun _ hs => hs

/-- The command that fetches what has been read. -/
theorem stlinkCmd_fetch (hok : env.NoFailure) (flags : Byte) (a : Nat) {bs : List Byte}
    (hne : bs ≠ []) {n : Nat} (hlen : bs.length = n) :
    Drv.Triple (StlinkState.At t bs)
      (stlinkCmd d env n flags (stlinkReadArgs 0x0c a n) bs)
      (fun bytes s => bytes = bs ∧ s.target = t) (fun _ _ => True) := by
  have hplain : Plain (stlinkReadArgs 0x0c a n) :=
    ⟨show (0x0c : Byte) ≠ 0x0a by decide, show (0x0c : Byte) ≠ 0x0b by decide⟩
  have hvalue := @stlinkCmd_value d env hok bs hne n hlen flags (stlinkReadArgs 0x0c a n)
  have hboth := hvalue.and (at_of_kept (stlinkCmd_kept hplain n flags bs) t bs)
  exact hboth.conseq (fun s hs => ⟨trivial, hs⟩) (fun bytes s hs => ⟨hs.1, hs.2.1⟩)
    fun _ _ _ => trivial

end Commands

/-! ## The range -/

section Range

variable {d : Stm8Device} {env : StlinkEnv} {t : Target}

theorem stlinkReadChunk_read (hok : env.NoFailure) {start length i size : Nat}
    (hlim : start + length ≤ 65536) (hi : i < length)
    (hsize : size = if length - i > stlkReadBufferSize then stlkReadBufferSize else length - i)
    (buffer : Nat → Byte) :
    Drv.Triple (fun s => s.target = t) (stlinkReadChunk d env start length i buffer)
      (fun buf s => buf = Image.storeAll buffer
          (Image.block i (t.read d env.hw (start + i) size)) ∧
        s.target = t.afterRead d (start + i) size) (fun _ _ => True) := by
  have hbound : 1 ≤ size ∧ i + size ≤ length ∧ size < 65536 := by
    rw [hsize]
    unfold stlkReadBufferSize
    split <;> omega
  have haddr : u32 (start + i) = start + i := u32_of_lt (by omega)
  have hread := @stlinkCmd_read d env t 0x80 (start + i) size (by omega)
  rw [Nat.mod_eq_of_lt (show start + i < 65536 by omega)] at hread
  have hne : t.read d env.hw (start + i) size ≠ [] := by
    apply List.ne_nil_of_length_pos
    rw [Target.read_length]
    omega
  unfold stlinkReadChunk
  rw [← hsize, haddr]
  refine Drv.Triple.ite (fun _ => ?_) fun _ => Drv.Triple.stop fun _ _ => trivial
  refine hread.bind fun _ => ?_
  refine (at_of_kept stlinkSwimWait_kept _ _).bind fun _ => ?_
  intro s hs
  rw [Drv.state_bind_run, hs.2]
  refine ((stlinkCmd_fetch hok 0x80 (start + i) hne (Target.read_length _ _ _ _ _)).bind
    fun bytes => ?_) s hs
  exact Drv.Triple.pure fun u hu => ⟨by rw [hu.1], hu.2⟩

/-- The bytes that the first `j` rounds read, and those of the next one. -/
theorem stlinkReadRound_next {length j : Nat} (hj : j < stlinkReadRounds length) :
    j * stlkReadBufferSize < length ∧
      min (j * stlkReadBufferSize) length = j * stlkReadBufferSize ∧
      min ((j + 1) * stlkReadBufferSize) length = j * stlkReadBufferSize +
        if length - j * stlkReadBufferSize > stlkReadBufferSize then stlkReadBufferSize
        else length - j * stlkReadBufferSize := by
  unfold stlinkReadRounds stlkReadBufferSize at *
  have hlt : j * 6144 < length := by omega
  refine ⟨hlt, Nat.min_eq_left (Nat.le_of_lt hlt), ?_⟩
  rw [Nat.add_mul, Nat.one_mul]
  generalize j * 6144 = n at hlt ⊢
  split <;> omega

/-- The chunks make up the range. -/
theorem stlinkReadChunks_read (hok : env.NoFailure) {start length : Nat}
    (hlim : start + length ≤ 65536) (buffer : Nat → Byte) :
    Drv.Triple (fun s => s.target = t)
      (Drv.foldFrom (fun j buffer => stlinkReadChunk d env start length (j * stlkReadBufferSize)
        buffer) (stlinkReadRounds length) 0 buffer)
      (fun buf _ => ∀ k < length, buf k = t.peek d env.hw (start + k)) (fun _ _ => True) := by
  -- after `j` rounds the first `j` chunks are read
  have hloop : Drv.Triple
      (fun s => buffer = Image.storeAll buffer (Image.block 0
          (t.read d env.hw start (min (0 * stlkReadBufferSize) length))) ∧
        s.target = t.afterRead d start (min (0 * stlkReadBufferSize) length))
      (Drv.foldFrom (fun j buffer => stlinkReadChunk d env start length (j * stlkReadBufferSize)
        buffer) (stlinkReadRounds length) 0 buffer)
      (fun buf s => buf = Image.storeAll buffer (Image.block 0
          (t.read d env.hw start
            (min ((0 + stlinkReadRounds length) * stlkReadBufferSize) length))) ∧
        s.target = t.afterRead d start
          (min ((0 + stlinkReadRounds length) * stlkReadBufferSize) length))
      (fun _ _ => True) := by
    refine Drv.Triple.foldFrom (I := fun j buf (s : StlinkState) =>
      buf = Image.storeAll buffer (Image.block 0
          (t.read d env.hw start (min (j * stlkReadBufferSize) length))) ∧
        s.target = t.afterRead d start (min (j * stlkReadBufferSize) length)) _
      (fun j buf _ hj => ?_) buffer
    rcases stlinkReadRound_next (show j < stlinkReadRounds length by omega) with
      ⟨hlt, hbefore, hafter⟩
    generalize hsize : (if length - j * stlkReadBufferSize > stlkReadBufferSize then
      stlkReadBufferSize else length - j * stlkReadBufferSize) = size at hafter
    rw [hbefore, hafter]
    refine Drv.Triple.and_pre fun hbuf => ?_
    apply Drv.Triple.of_part (f := StlinkState.target)
      (P := fun u => u = t.afterRead d start (j * stlkReadBufferSize))
    rintro u rfl
    refine (stlinkReadChunk_read hok hlim hlt hsize.symm buf).post fun buf' s hs => ?_
    -- the chunk comes after the ones before it
    rw [Target.read_add, ← Target.afterRead_add, Image.block_append, Target.read_length,
      Image.storeAll_append, Nat.zero_add, ← hbuf]
    exact hs
  refine (hloop.post fun buf s hs k hk => ?_).pre fun s hs => ?_
  · have hall : min ((0 + stlinkReadRounds length) * stlkReadBufferSize) length = length := by
      unfold stlinkReadRounds stlkReadBufferSize
      omega
    have hat := Image.storeAll_block_slice_at buffer (t.peek d env.hw) 0 start length k hk
    rw [Nat.zero_add] at hat
    rw [hs.1, hall]
    exact hat
  · rw [Nat.zero_mul, Nat.zero_min, Target.afterRead_zero]
    exact ⟨rfl, hs⟩

/-- `stlink_swim_read_range` delivers what the target shows, but for the two registers that it
has written. -/
theorem stlinkSwimReadRange_read (hd : d.Sound) (hok : env.NoFailure) {start length : Nat}
    (hlim : start + length ≤ 65536) (buffer : Nat → Byte) :
    Drv.Triple (fun s => s.target = t) (stlinkSwimReadRange d env buffer start length)
      (fun r _ => r.1 = toInt32 length ∧
        ∀ k < length, ¬d.SessionReg (start + k) → r.2 k = t.peek d env.hw (start + k))
      (fun _ _ => False) := by
  have hreturned : Drv.Triple (fun s => t.SameBut d s.target)
      (stlinkSwimReadRange d env buffer start length)
      (fun r _ => r.1 = toInt32 length ∧
        ∀ k < length, ¬d.SessionReg (start + k) → r.2 k = t.peek d env.hw (start + k))
      (fun _ _ => True) := by
    apply (stlinkInitSession_sameBut hd).bind
    intro _
    apply (stlinkSwimWriteByte_sameBut hd (Or.inl rfl) 0x00).bind
    intro _
    apply Drv.Triple.of_part
    intro u hu
    apply (stlinkReadChunks_read hok hlim buffer).bind
    -- the end of the session does not change the buffer
    intro buf s hbuf
    rcases stlinkFinishSession_returns hok s with ⟨a, w, hfinish⟩
    rw [Drv.bind_ok hfinish]
    refine ⟨rfl, fun k hk hreg => ?_⟩
    exact (hbuf k hk).trans (hu.peek env.hw hreg)
  refine (hreturned.pre fun s hs => ?_).total (stlinkSwimReadRange_returns hok (by omega) buffer)
  rw [hs]
  exact Target.SameBut.refl d t

end Range

end Stm8Flash
