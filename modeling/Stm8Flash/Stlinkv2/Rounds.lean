import Stm8Flash.DiffWrite
import Stm8Flash.Stlinkv2.Fetch

/-! # ST-Link V2: when a read ends

The loop of `stlink2_swim_read_range` takes at most `read_buf_size` bytes a round, and
`stlink2_open` stores there what the programmer reports, without a look at it.
`stlink2SwimReadRange_ends_iff` says for which numbers the loop ends.
-/

namespace Stm8Flash

open Hex Word

/-- `msg_recv_int16`: `load_int` of two bytes, the low one first. -/
def msgRecvInt16 (b₀ b₁ : Byte) : Nat := b₀.toNat ||| (b₁.toNat <<< 8)

theorem msgRecvInt16_lt (b₀ b₁ : Byte) : msgRecvInt16 b₀ b₁ < 65536 := by
  have h₀ : b₀.toNat < 256 := b₀.toNat_lt
  have h₁ : b₁.toNat < 256 := b₁.toNat_lt
  refine Nat.or_lt_two_pow (n := 16) (by omega) ?_
  rw [Nat.shiftLeft_eq]
  omega

/-! ## The rounds -/

section Rounds

variable {readBufSize i remaining : Nat} {cs : List (Nat × Nat)}

/-- The rounds tile what is to come, and none is longer than the buffer. -/
theorem Stlink2Rounds.tiles (h : Stlink2Rounds readBufSize i remaining cs)
    (hpos : 0 < readBufSize) :
    Tiles i (i + remaining) cs ∧ ∀ c ∈ cs, 0 < c.2 ∧ c.2 ≤ readBufSize := by
  induction h with
  | done => exact ⟨Tiles.nil, by simp⟩
  | @round i remaining size cs hrem hsize _ ih =>
    have hbound : 0 < size ∧ size ≤ remaining ∧ size ≤ readBufSize := by
      rw [hsize]
      split <;> omega
    rcases ih with ⟨htiles, hall⟩
    have hend : i + size + (remaining - size) = i + remaining := by omega
    rw [hend] at htiles
    refine ⟨Tiles.cons hbound.1 htiles, fun c hc => ?_⟩
    rcases List.mem_cons.mp hc with rfl | hc
    · exact ⟨hbound.1, hbound.2.2⟩
    · exact hall c hc

/-- Only a buffer that takes something comes to an end. -/
theorem Stlink2Rounds.pos (h : Stlink2Rounds readBufSize i remaining cs)
    (hrem : 0 < remaining) : 0 < readBufSize := by
  induction h with
  | done => omega
  | @round i remaining size cs _ hsize _ ih =>
    by_contra hzero
    -- nothing is taken, and as much as before is to come
    have hnone : size = 0 := by
      rw [hsize]
      split <;> omega
    exact hzero (ih (by omega))

end Rounds

/-! ## What a round does -/

section Runs

variable {d : Stm8Device} {env : Stlinkv2Env}

/-- A piece of at most 65535 bytes is delivered when nothing fails. -/
theorem stlink2FetchChunk_returns (hok : env.NoFailure) (start : Nat) {c : Nat × Nat}
    (hc : c.2 < 65536) : Drv.Returns (stlink2FetchChunk d env start c) := by
  intro s
  have hread : Drv.Triple (Stlinkv2State.At s.target s.readbuf) (stlink2FetchChunk d env start c)
      (fun _ _ => True) (fun _ _ => False) := by
    refine (hok.total (swimCmdInternal_read (HI_lt c.2) (LO_lt c.2) (be16_bytes hc)
      (show 0x00 < 256 by decide) (EX_lt _) (HI_lt _) (LO_lt _) rfl)).bind fun _ => ?_
    refine (hok.total stlink2_readbuf).bind fun _ => ?_
    refine (hok.total (stlink2MsgRecv_spec (Target.read_length _ d env.hw _ _))).bind fun _ => ?_
    exact Drv.Triple.pure fun _ _ => trivial
  obtain ⟨p, t, hrun, -⟩ := hread.returns ⟨rfl, rfl⟩
  exact ⟨p, t, hrun⟩

/-- The status loop has errors of its own. -/
theorem swimPoll_ne_endless {other : SwimStatus} {stalls : Nat} {replies : List SwimStatus} :
    swimPoll other stalls replies ≠ .error .endless := by
  induction replies generalizing other stalls with
  | nil => exact fun h => by cases h
  | cons status replies ih =>
    unfold swimPoll
    by_cases hdone : status.1 = 0
    · rw [if_pos hdone]
      exact fun h => by cases h
    · rw [if_neg hdone]
      generalize (if status = other then stalls + 1 else 0) = count
      by_cases hlt : count < 4
      · exact (if_pos hlt).trans_ne ih
      · exact (if_neg hlt).trans_ne fun h => by cases h

theorem stlink2MsgTransfer_ends :
    Drv.Triple (fun _ => True) (stlink2MsgTransfer env) (fun _ _ => True)
      (fun e _ => e ≠ .endless) := by
  refine Drv.Triple.state (Q := fun _ _ => True) (fun _ _ => trivial) |>.bind fun s => ?_
  refine Drv.Triple.change (Q := fun _ _ => True) (fun _ _ => trivial) |>.bind fun _ => ?_
  refine Drv.Triple.ite (fun _ => Drv.Triple.pure fun _ _ => trivial) fun _ => ?_
  exact Drv.Triple.stop fun _ _ h => by cases h

theorem stlink2CmdInternal_ends (args buf : List Byte) :
    Drv.Triple (fun _ => True) (stlink2CmdInternal d env args buf) (fun _ _ => True)
      (fun e _ => e ≠ .endless) := by
  have hsend : ∀ data, Drv.Triple (fun _ => True) (stlink2MsgSend env data) (fun _ _ => True)
      (fun e _ => e ≠ .endless) := fun data =>
    stlink2MsgTransfer_ends.bind fun _ => Drv.Triple.change fun _ _ => trivial
  refine (hsend _).bind fun _ => ?_
  refine Drv.Triple.bind (Q := fun _ _ => True) ?_ fun _ => Drv.Triple.change fun _ _ => trivial
  exact Drv.Triple.ite (fun _ => Drv.Triple.pure fun _ _ => trivial) fun _ => hsend _

/-- Every piece comes in, or stops the program with a message. -/
theorem stlink2FetchChunk_ends (start : Nat) (c : Nat × Nat) :
    Drv.Triple (fun _ => True) (stlink2FetchChunk d env start c) (fun _ _ => True)
      (fun e _ => e ≠ .endless) := by
  refine Drv.Triple.bind (Q := fun _ _ => True) ?_ fun _ => ?_
  · refine (stlink2CmdInternal_ends _ _).bind fun _ => ?_
    refine Drv.Triple.state (Q := fun _ _ => True) (fun _ _ => trivial) |>.bind fun s => ?_
    refine Drv.Triple.change (Q := fun _ _ => True) (fun _ _ => trivial) |>.bind fun _ => ?_
    rcases hpoll : swimPoll (env.stackStatus s.swimCmds) 0 (env.replies s.swimCmds) with e | _
    · refine Drv.Triple.stop fun _ _ he => ?_
      rw [he] at hpoll
      exact swimPoll_ne_endless hpoll
    · exact Drv.Triple.pure fun _ _ => trivial
  · refine (stlink2CmdInternal_ends _ _).bind fun _ => ?_
    refine Drv.Triple.bind (Q := fun _ _ => True) ?_ fun _ => Drv.Triple.pure fun _ _ => trivial
    refine Drv.Triple.ite (fun _ => Drv.Triple.pure fun _ _ => trivial) fun _ => ?_
    refine stlink2MsgTransfer_ends.bind fun _ => ?_
    refine Drv.Triple.state (Q := fun _ _ => True) (fun _ _ => trivial) |>.bind fun s => ?_
    refine Drv.Triple.ite (fun _ => ?_) fun _ => Drv.Triple.pure fun _ _ => trivial
    exact Drv.Triple.stop fun _ _ h => by cases h

/-- Without a buffer and without a failure the loop goes on for ever. -/
theorem stlink2ReadLoop_spins (hok : Stlinkv2Env.NoFailure { env with readBufSize := 1 })
    (hzero : env.readBufSize = 0) {remaining : Nat} (hpos : 0 < remaining) (fuel i a : Nat)
    (buffer : Nat → Byte) (s : Stlinkv2State) :
    ∃ t, stlink2ReadLoop d env fuel i a remaining buffer s = (.error .endless, t) := by
  induction fuel generalizing i a buffer s with
  | zero =>
    unfold stlink2ReadLoop
    rw [if_neg (by omega)]
    exact ⟨s, rfl⟩
  | succ fuel ih =>
    obtain ⟨_, s₁, hcmd, -⟩ := (hok.total (@swimCmdInternal_spec d { env with readBufSize := 1 }
      s.target s.readbuf (swimMemArgs 0x0b (HI 0) (LO 0) 0x00 (EX a) (HI a) (LO a)) [])).returns
        (s := s) ⟨rfl, rfl⟩
    obtain ⟨_, s₂, hbuf, -⟩ := (hok.total (@stlink2_readbuf d { env with readBufSize := 1 }
      s₁.target s₁.readbuf)).returns (s := s₁) ⟨rfl, rfl⟩
    change swimCmdInternal d env _ _ s = _ at hcmd
    change stlink2CmdInternal d env _ _ s₁ = _ at hbuf
    unfold stlink2ReadLoop
    rw [if_neg (by omega), hzero, if_pos hpos, Drv.bind_ok hcmd, Drv.bind_ok hbuf]
    -- the round ends where it began
    exact ih (i + 0) (u32 (a + 0)) _ s₂

/-- When nothing fails the loop comes to its end exactly for a buffer that takes something, or
when there is nothing to read. -/
theorem stlink2ReadLoop_returns_iff (htransferred : ∀ k, env.transferred k = true)
    (hpolled : ∀ k, swimPoll (env.stackStatus k) 0 (env.replies k) = .ok ())
    (hsize : env.readBufSize < 65536) (start length : Nat) (buffer : Nat → Byte)
    (s : Stlinkv2State) :
    (∃ fuel buf t, stlink2ReadLoop d env fuel 0 start length buffer s = (.ok buf, t)) ↔
      env.readBufSize ≠ 0 ∨ length = 0 := by
  constructor
  · rintro ⟨fuel, buf, t, hrun⟩
    by_contra hnone
    have hok : Stlinkv2Env.NoFailure { env with readBufSize := 1 } :=
      ⟨htransferred, hpolled, Nat.le_refl 1, show 1 < 65536 by decide⟩
    obtain ⟨u, hspin⟩ := @stlink2ReadLoop_spins d env hok (by omega) length (by omega) fuel 0 start
      buffer s
    rw [hspin] at hrun
    cases hrun
  · intro hsome
    rcases Nat.eq_zero_or_pos length with rfl | hlength
    · exact ⟨0, buffer, s, rfl⟩
    · have hpos : 0 < env.readBufSize := by omega
      have hrounds := stlink2Rounds_cut hpos (Nat.le_refl length) 0
      have hshort := (hrounds.tiles hpos).2
      have hreturns : Drv.Returns
          ((Tiles.cut env.readBufSize length 0 length).mapM (stlink2FetchChunk d env start)) := by
        refine Drv.Returns.mapM fun c hc => ?_
        have hle := (hshort c hc).2
        exact stlink2FetchChunk_returns ⟨htransferred, hpolled, hpos, hsize⟩ start (by omega)
      obtain ⟨buf, t, hrun⟩ := (hreturns.bind fun ps =>
        Drv.Returns.pure (stored buffer ps)) s
      refine ⟨length, buf, t, ?_⟩
      have hfetch := @stlink2ReadLoop_fetch d env hpos length 0 start length start
        (Nat.le_refl length) ⟨rfl, rfl, rfl⟩ buffer
      rw [hfetch]
      exact hrun

end Runs

/-- For every number that `stlink2_open` can store: the loop goes through finitely many rounds,
none of them empty or longer than the length field of the command, which tile the range in
order, exactly when the number is not 0 or nothing is to be read. The program is then these
rounds, whatever the transfers do, and otherwise, when nothing fails, it does not end. -/
theorem stlink2SwimReadRange_ends_iff (d : Stm8Device) {env : Stlinkv2Env} {b₀ b₁ : Byte}
    (hopen : env.readBufSize = msgRecvInt16 b₀ b₁) (start length : Nat) :
    ((∃ cs, Stlink2Rounds env.readBufSize 0 length cs ∧ Tiles 0 length cs ∧
        ∀ c ∈ cs, 0 < c.2 ∧ c.2 < 65536) ↔ env.readBufSize ≠ 0 ∨ length = 0) ∧
    (∀ cs, Stlink2Rounds env.readBufSize 0 length cs → ∀ fuel, cs.length ≤ fuel → ∀ buffer,
      stlink2ReadLoop d env fuel 0 start length buffer =
        (cs.mapM (stlink2FetchChunk d env start) >>= fun ps => pure (stored buffer ps)) ∧
      ∀ s t, stlink2ReadLoop d env fuel 0 start length buffer s ≠ (.error .endless, t)) ∧
    ((∀ k, env.transferred k = true) →
      (∀ k, swimPoll (env.stackStatus k) 0 (env.replies k) = .ok ()) → ∀ buffer s,
      ((∃ fuel buf t, stlink2ReadLoop d env fuel 0 start length buffer s = (.ok buf, t)) ↔
        env.readBufSize ≠ 0 ∨ length = 0)) := by
  have hsize : env.readBufSize < 65536 := by
    rw [hopen]
    exact msgRecvInt16_lt b₀ b₁
  refine ⟨⟨?_, ?_⟩, fun cs hrounds fuel hfuel buffer => ?_, fun htransferred hpolled buffer s =>
    stlink2ReadLoop_returns_iff htransferred hpolled hsize start length buffer s⟩
  · rintro ⟨cs, hrounds, -, -⟩
    rcases Nat.eq_zero_or_pos length with hzero | hlength
    · exact Or.inr hzero
    · have hpos := hrounds.pos hlength
      exact Or.inl (by omega)
  · intro hsome
    rcases Nat.eq_zero_or_pos length with rfl | hlength
    · exact ⟨[], .done, .nil, by simp⟩
    · have hpos : 0 < env.readBufSize := by omega
      have hrounds := stlink2Rounds_cut hpos (Nat.le_refl length) 0
      obtain ⟨htiles, hall⟩ := hrounds.tiles hpos
      rw [Nat.zero_add] at htiles
      refine ⟨_, hrounds, htiles, fun c hc => ?_⟩
      have hbound := hall c hc
      omega
  · have hfetch := @Stlink2Rounds.fetch d env _ _ _ hrounds fuel start start hfuel
      ⟨rfl, rfl, rfl⟩ buffer
    refine ⟨hfetch, fun s t hrun => ?_⟩
    have hends := (Drv.Triple.mapM fun c (_ : c ∈ cs) => @stlink2FetchChunk_ends d env start c).bind
      fun ps => @Drv.Triple.pure _ _ _ _ (fun _ _ => True) _ (stored buffer ps) fun _ h => h
    rw [hfetch] at hrun
    exact hends.of_error trivial hrun rfl

/-- The usual 6144 bytes. -/
theorem stlink2SwimReadRange_ends_iff_6144 :
    ∃ cs, Stlink2Rounds Stlinkv2Env.answering.readBufSize 0 20000 cs ∧ Tiles 0 20000 cs ∧
      ∀ c ∈ cs, 0 < c.2 ∧ c.2 < 65536 :=
  (@stlink2SwimReadRange_ends_iff stm8Devices[0] .answering 0x00 0x18 (by decide) 0x8000
    20000).1.mpr (Or.inl (by decide))

/-- A programmer that reports 0 keeps the program reading one byte for ever. -/
theorem stlink2SwimReadRange_endless :
    msgRecvInt16 0x00 0x00 = 0 ∧ (¬∃ cs, Stlink2Rounds 0 0 1 cs) ∧
      ∀ fuel, ∃ t, stlink2ReadLoop stm8Devices[0] { Stlinkv2Env.answering with readBufSize := 0 }
        fuel 0 0x8000 1 (fun _ => 0) ⟨.idle fun _ => 0, [], 0, 0, []⟩ = (.error .endless, t) := by
  refine ⟨by decide, ?_, fun fuel => ?_⟩
  · rintro ⟨cs, hrounds⟩
    exact absurd (hrounds.pos (Nat.one_pos)) (Nat.lt_irrefl 0)
  · exact @stlink2ReadLoop_spins stm8Devices[0] { Stlinkv2Env.answering with readBufSize := 0 }
      ⟨fun _ => rfl, fun _ => rfl, Nat.le_refl 1, by decide⟩ rfl 1 Nat.one_pos fuel 0 0x8000 _ _

end Stm8Flash
